import Typeflow.Proofs.Arena.Equivalence
import Typeflow.Proofs.Arena.Totality
import Typeflow.Proofs.Lockstep

/-!
Unification is symmetric. The two orders part company at the first pair of unbound variables: one
binds the left variable and the other the right one, and from then on they go on in different
arenas. But these arenas have the same solutions. Types that are equated there have the same form
once they are resolved, so both descents meet the same case at every step: both see one variable
twice, both find a variable in a type, or both see a clash. Whatever is bound adds equations with
the same solutions, and the arenas stay equivalent to the end, also to a bad one.
-/

namespace Typeflow

/-- The errors are of one kind, and either both or neither of them name a type in which a variable
occurs. -/
def InferenceError.SameKind (error error' : InferenceError) : Prop :=
  error.kind = error'.kind ∧
    ((∃ v ty, error = .occurs v ty) ↔ ∃ v ty, error' = .occurs v ty)

inductive Failure.SameKind : Failure → Failure → Prop
  | error {error error' : InferenceError} : error.SameKind error' →
      SameKind (.error error) (.error error')
  | fault (fault : Fault) : SameKind (.fault fault) (.fault fault)

/-- The same channels are switched on, and the traces are equally full. -/
structure Trace.Matches (trace trace' : Trace) : Prop where
  channels_eq : trace'.channels = trace.channels
  limit_eq : trace'.limit = trace.limit
  length_eq : trace'.writes.length = trace.writes.length

theorem Trace.Matches.write {trace trace' : Trace} (h : trace.Matches trace') (channel : Channel)
    (line line' : Text) :
    Together (Trace.write channel line) (Trace.write channel line') trace trace'
      (fun _ _ after after' => after.Matches after')
      fun failure failure' after after' => failure.SameKind failure' ∧ after.Matches after' := by
  have hfull : trace'.isFull = trace.isFull := by simp only [isFull, h.limit_eq, h.length_eq]
  by_cases hchannel : channel ∈ trace.channels
  · have hchannel' : channel ∈ trace'.channels := by rwa [h.channels_eq]
    by_cases hlimit : trace.isFull = true
    · have hlimit' : trace'.isFull = true := hfull.trans hlimit
      have hwrite : Trace.write channel line trace = .error (.fault .traceFull) trace := by
        simp only [Trace.write, if_pos hchannel, if_pos hlimit]
      have hwrite' : Trace.write channel line' trace' = .error (.fault .traceFull) trace' := by
        simp only [Trace.write, if_pos hchannel', if_pos hlimit']
      exact .error hwrite hwrite' ⟨.fault .traceFull, h⟩
    · have hlimit' : ¬ trace'.isFull = true := by rwa [hfull]
      have hwrite : Trace.write channel line trace =
          .ok () { trace with writes := trace.writes ++ [line] } := by
        simp only [Trace.write, if_pos hchannel, if_neg hlimit]
      have hwrite' : Trace.write channel line' trace' =
          .ok () { trace' with writes := trace'.writes ++ [line'] } := by
        simp only [Trace.write, if_pos hchannel', if_neg hlimit']
      refine .ok hwrite hwrite' ⟨h.channels_eq, h.limit_eq, ?_⟩
      simp [h.length_eq]
  · have hchannel' : channel ∉ trace'.channels := by rwa [h.channels_eq]
    have hwrite : Trace.write channel line trace = .ok () trace := by
      simp only [Trace.write, if_neg hchannel]
    have hwrite' : Trace.write channel line' trace' = .ok () trace' := by
      simp only [Trace.write, if_neg hchannel']
    exact .ok hwrite hwrite' h

namespace Arena

variable {arena arena' : Arena} {ty ty' : Ty}

/-- The types can be handed to the engine and the arena knows that they are equal. -/
structure Counterparts (arena : Arena) (ty ty' : Ty) : Prop where
  fits : ty.Fits arena
  fits' : ty'.Fits arena
  equates : arena.Equates ty ty'

theorem Counterparts.refl (h : ty.Fits arena) : arena.Counterparts ty ty :=
  ⟨h, h, Equates.refl ty⟩

theorem Counterparts.grows {arena₁ : Arena} (h : arena.Counterparts ty ty')
    (hgrows : arena.Grows arena₁) : arena₁.Counterparts ty ty' :=
  ⟨hgrows.fits h.fits, hgrows.fits h.fits', h.equates.grows hgrows⟩

theorem Counterparts.parts {params params' : List Ty} {result result' : Ty}
    (h : arena.Counterparts (.fn params result) (.fn params' result'))
    (hlength : params.length = params'.length) :
    List.Forall₂ arena.Counterparts (params ++ [result]) (params' ++ [result']) := by
  obtain ⟨hlengths, hequated⟩ := List.forall₂_iff_zip.mp (h.equates.parts hlength)
  refine List.forall₂_iff_zip.mpr ⟨hlengths, fun {p q} hpair => ?_⟩
  exact ⟨h.fits.part (List.of_mem_zip hpair).1, h.fits'.part (List.of_mem_zip hpair).2,
    hequated hpair⟩

/-- Counterparts that have been resolved, each in one of two arenas. -/
structure Facing (arena arena' : Arena) (ty ty' : Ty) : Prop where
  counterparts : arena.Counterparts ty ty'
  unbound : ∀ v, ty = .var v → arena.Owns v ∧ arena.entry v = none
  unbound' : ∀ v, ty' = .var v → arena'.Owns v ∧ arena'.entry v = none

theorem Equivalent.facing {resolved resolved' : Ty} (h : arena.Equivalent arena')
    (hty : arena.Counterparts ty ty') (hresolved : arena.Resolved ty resolved)
    (hresolved' : arena'.Resolved ty' resolved') : arena.Facing arena' resolved resolved' := by
  have hequates' := h.equates_iff.mp (hresolved'.equates h.wellFormed')
  refine ⟨⟨hresolved.fits hty.fits, ?_, ?_⟩, hresolved.unbound, hresolved'.unbound⟩
  · exact h.symm.fits (hresolved'.fits (h.fits hty.fits'))
  · exact (hresolved.equates h.wellFormed).symm.trans (hty.equates.trans hequates')

theorem Facing.same {arena₁ arena₁' : Arena} (h : arena.Facing arena' ty ty')
    (hequivalent : arena.Equivalent arena') (hsame : arena.Same arena₁)
    (hsame' : arena'.Same arena₁') :
    arena₁.Facing arena₁' ty ty' := by
  refine ⟨h.counterparts.grows (hsame.grows hequivalent.wellFormed), fun v hv => ?_,
    fun v hv => ?_⟩
  · rw [hsame.owns_iff, hsame.entry_eq_none_iff hequivalent.wellFormed]
    exact h.unbound v hv
  · rw [hsame'.owns_iff, hsame'.entry_eq_none_iff hequivalent.wellFormed']
    exact h.unbound' v hv

theorem Facing.sameForm (h : arena.Facing arena' ty ty') (hequivalent : arena.Equivalent arena') :
    ty.SameForm ty' :=
  hequivalent.sameForm (fun v hv => (h.unbound v hv).2) (fun v hv => (h.unbound' v hv).2)
    h.counterparts.equates

/-- A variable meets itself in one arena exactly if its counterpart does in the other. -/
theorem Equivalent.facing_var_eq_iff {v v' w w' : TypeVar} (h : arena.Equivalent arena')
    (hv : arena.Facing arena' (.var v) (.var v')) (hw : arena.Facing arena' (.var w) (.var w')) :
    v = w ↔ v' = w' := by
  have heq := hv.counterparts.equates
  have heq' := hw.counterparts.equates
  rw [← equates_var_iff h.wellFormed (hv.unbound v rfl).2 (hw.unbound w rfl).2,
    ← equates_var_iff h.wellFormed' (hv.unbound' v' rfl).2 (hw.unbound' w' rfl).2, h.equates_iff]
  constructor
  · intro hvw
    exact heq.symm.trans (hvw.trans heq')
  · intro hvw
    exact heq.trans (hvw.trans heq'.symm)

theorem depthBound_swap (arena : Arena) (left right : Ty) :
    arena.depthBound [right, left] = arena.depthBound [left, right] := by
  simp only [depthBound, Ty.heightList, Nat.max_left_comm]

end Arena

/-- Where the elements of two lists have partners, pairs of them have the partners as a pair, also
in the other order. -/
theorem forall₂_zip_swap {α α' β β' : Type} {R : α → α' → Prop} {S : β → β' → Prop} {xs : List α}
    {xs' : List α'} {ys : List β} {ys' : List β'} (hx : List.Forall₂ R xs xs')
    (hy : List.Forall₂ S ys ys') :
    List.Forall₂ (fun pair pair' => R pair.1 pair'.2 ∧ S pair.2 pair'.1) (xs.zip ys)
      (ys'.zip xs') := by
  induction hx generalizing ys ys' with
  | nil => simp
  | cons hfirst _ ih =>
    cases hy with
    | nil => simp
    | cons hfirst' hrest' => exact .cons ⟨hfirst, hfirst'⟩ (ih hrest')

namespace Session

variable {s s₁ t t₁ : Session}

/-- Since the first session only questions have been asked. -/
structure Asked (session session' : Session) : Prop where
  same : session.arena.Same session'.arena
  trace_eq : session'.trace = session.trace

/-- The arenas of the sessions have the same solutions, and the traces match. -/
structure Twins (session session' : Session) : Prop where
  equivalent : session.arena.Equivalent session'.arena
  traces : session.trace.Matches session'.trace

theorem Twins.refl (h : s.arena.WellFormed) : s.Twins s :=
  ⟨Arena.Equivalent.refl h, rfl, rfl, rfl⟩

theorem Twins.asked (h : s.Twins t) (hs : s.Asked s₁) (ht : t.Asked t₁) : s₁.Twins t₁ := by
  have hleft := Arena.Equivalent.of_same h.equivalent.wellFormed hs.same
  have hright := Arena.Equivalent.of_same h.equivalent.wellFormed' ht.same
  refine ⟨hleft.symm.trans (h.equivalent.trans hright), ?_⟩
  rw [hs.trace_eq, ht.trace_eq]
  exact h.traces

end Session

namespace Unifier

variable {s t : Session} {v w : TypeVar} {left left' right right' ty ty' : Ty} {depth : Nat}

/-- Both runs end, each in a value or each in a failure of the same kind, and leave twins
behind. -/
def Agree (x y : Unifier Unit) (s t : Session) : Prop :=
  Together x y s t (fun _ _ s' t' => s'.Twins t')
    fun failure failure' s' t' => failure.SameKind failure' ∧ s'.Twins t'

theorem query_together {α β : Type} {ask : Query α} {ask' : Query β} {holds : α → Prop}
    {holds' : β → Prop} {bad : Failure → Failure → Session → Session → Prop}
    (h : Ends ask s.arena (fun answer arena => holds answer ∧ s.arena.Same arena)
      fun _ _ => False)
    (h' : Ends ask' t.arena (fun answer arena => holds' answer ∧ t.arena.Same arena)
      fun _ _ => False) :
    Together (query ask) (query ask') s t
      (fun answer answer' s' t' => (holds answer ∧ s.Asked s') ∧ holds' answer' ∧ t.Asked t')
      bad := by
  refine Together.of_total (query_ends (h.mono ?_ fun _ _ h => h))
    (query_ends (h'.mono ?_ fun _ _ h => h))
  · exact fun _ _ h => ⟨h.1, h.2, rfl⟩
  · exact fun _ _ h => ⟨h.1, h.2, rfl⟩

theorem write_together (h : s.Twins t) (channel : Channel) (line line' : Text) :
    Together (write channel line) (write channel line') s t
      (fun _ _ s' t' => s'.arena = s.arena ∧ t'.arena = t.arena ∧ s'.trace.Matches t'.trace)
      fun failure failure' s' t' => failure.SameKind failure' ∧ s'.Twins t' := by
  cases h.traces.write channel line line' with
  | @ok _ _ trace trace' hwrite hwrite' hmatches =>
    have hs : write channel line s = .ok () { s with trace } := by
      unfold write
      rw [hwrite]
    have ht : write channel line' t = .ok () { t with trace := trace' } := by
      unfold write
      rw [hwrite']
    exact .ok hs ht ⟨rfl, rfl, hmatches⟩
  | @error failure failure' trace trace' hwrite hwrite' hfailed =>
    have hs : write channel line s = .error failure { s with trace } := by
      unfold write
      rw [hwrite]
    have ht : write channel line' t = .error failure' { t with trace := trace' } := by
      unfold write
      rw [hwrite']
    exact .error hs ht ⟨hfailed.1, h.equivalent, hfailed.2⟩

theorem refuse_agree (h : s.Twins t) (hleft : s.arena.Counterparts left left')
    (hright : s.arena.Counterparts right right') {reason : Ty → Ty → InferenceError}
    (hreason : ∀ l r l' r', (reason l r).SameKind (reason l' r')) :
    Agree (refuse reason left right) (refuse reason right' left') s t := by
  have hfits := h.equivalent.fits hright.fits'
  have hfits' := h.equivalent.fits hleft.fits'
  refine Together.bind (query_together (Arena.apply_ends h.equivalent.wellFormed hleft.fits.owned)
    (Arena.apply_ends h.equivalent.wellFormed' hfits.owned)) ?_
  intro l r' s₁ t₁ hfirst
  obtain ⟨⟨_, hs⟩, _, ht⟩ := hfirst
  have h₁ := h.asked hs ht
  refine Together.bind (query_together (Arena.apply_ends h₁.equivalent.wellFormed
    (hs.same.fits hright.fits).owned) (Arena.apply_ends h₁.equivalent.wellFormed'
    (ht.same.fits hfits').owned)) ?_
  intro r l' s₂ t₂ hsecond
  obtain ⟨⟨_, hs₂⟩, _, ht₂⟩ := hsecond
  exact Together.throw ⟨.error (hreason l r r' l'), h₁.asked hs₂ ht₂⟩

/-- Unbound variables are bound in both sessions, and the sessions stay twins if the new entries
say the same. -/
theorem substitute_agree (h : s.Twins t) (hv : s.arena.Owns v) (hunbound : s.arena.entry v = none)
    (hw : t.arena.Owns w) (hunbound' : t.arena.entry w = none)
    (hassign : (s.arena.assign v ty).Equivalent (t.arena.assign w ty')) :
    Agree (substitute v ty) (substitute w ty') s t := by
  have hfirst : Together (lookup v) (lookup w) s t
      (fun entry entry' s' t' => (entry = none ∧ s' = s) ∧ entry' = none ∧ t' = t)
      fun failure failure' s' t' => failure.SameKind failure' ∧ s'.Twins t' :=
    .ok (lookup_unbound hv hunbound) (lookup_unbound hw hunbound') ⟨⟨rfl, rfl⟩, rfl, rfl⟩
  refine Together.bind hfirst ?_
  rintro _ _ _ _ ⟨⟨rfl, rfl⟩, rfl, rfl⟩
  refine Together.bind (write_together h .unify _ _) ?_
  intro _ _ s₁ t₁ hwritten
  obtain ⟨hs, ht, hmatches⟩ := hwritten
  refine .ok rfl rfl ⟨?_, hmatches⟩
  rw [← hs, ← ht] at hassign
  exact hassign

theorem bindVar_eq (h : ∀ w, ty ≠ .var w) (v : TypeVar) :
    bindVar v ty = (do
      if ← query (Arena.occurs v ty) then
        let ty ← query (Arena.apply ty)
        throw (.error (.occurs v ty))
      else substitute v ty) := by
  cases ty with
  | var w => exact absurd rfl (h w)
  | _ => rfl

/-- Counterparts of a variable and of a type are bound to each other, or the variable is found in
the type both times. -/
theorem bindVar_agree (h : s.Twins t) (hvar : s.arena.Facing t.arena (.var v) (.var w))
    (hty : s.arena.Facing t.arena ty ty') (hne : ∀ x, ty ≠ .var x) (hne' : ∀ x, ty' ≠ .var x) :
    Agree (bindVar v ty) (bindVar w ty') s t := by
  have hfits := hty.counterparts.fits
  have hfits' := h.equivalent.fits hty.counterparts.fits'
  rw [bindVar_eq hne, bindVar_eq hne']
  refine Together.bind (query_together
    (Arena.occurs_total h.equivalent.wellFormed hfits.owned hfits.nilFree v)
    (Arena.occurs_total h.equivalent.wellFormed' hfits'.owned hfits'.nilFree w)) ?_
  intro answer answer' s₁ t₁ hanswers
  obtain ⟨⟨hanswer, hs⟩, hanswer', ht⟩ := hanswers
  have h₁ := h.asked hs ht
  have heq : answer = answer' := by
    rw [Bool.eq_iff_iff, hanswer, hanswer']
    exact h.equivalent.mem_solved_iff (hvar.unbound v rfl).2 (hvar.unbound' w rfl).2
      hvar.counterparts.equates hty.counterparts.equates
  subst heq
  cases answer with
  | true =>
    refine Together.bind (query_together
      (Arena.apply_ends h₁.equivalent.wellFormed (hs.same.fits hfits).owned)
      (Arena.apply_ends h₁.equivalent.wellFormed' (ht.same.fits hfits').owned)) ?_
    intro value value' s₂ t₂ hvalues
    obtain ⟨⟨_, hs₂⟩, _, ht₂⟩ := hvalues
    exact Together.throw ⟨.error ⟨rfl, iff_of_true ⟨v, value, rfl⟩ ⟨w, value', rfl⟩⟩,
      h₁.asked hs₂ ht₂⟩
  | false =>
    have hlacks : s₁.arena.Lacks v ty := hs.same.lacks_iff.mpr
      ⟨hfits.owned, hfits.nilFree, fun hmem => Bool.false_ne_true (hanswer.mpr hmem)⟩
    have hlacks' : t₁.arena.Lacks w ty' := ht.same.lacks_iff.mpr
      ⟨hfits'.owned, hfits'.nilFree, fun hmem => Bool.false_ne_true (hanswer'.mpr hmem)⟩
    have hvar₁ := hvar.same h.equivalent hs.same ht.same
    have hty₁ := hty.same h.equivalent hs.same ht.same
    obtain ⟨hv, hunbound⟩ := hvar₁.unbound v rfl
    obtain ⟨hw, hunbound'⟩ := hvar₁.unbound' w rfl
    exact substitute_agree h₁ hv hunbound hw hunbound'
      (h₁.equivalent.unified hvar₁.counterparts.equates hty₁.counterparts.equates
        (Arena.unified_assign h₁.equivalent.wellFormed hv hunbound hlacks)
        (Arena.unified_assign h₁.equivalent.wellFormed' hw hunbound' hlacks')
        (Arena.size_assign _ _ _) (Arena.size_assign _ _ _))

/-- Of two unbound variables one run binds the first and the other run the second. -/
theorem bindVars_agree {v' w' : TypeVar} (h : s.Twins t)
    (hv : s.arena.Facing t.arena (.var v) (.var v'))
    (hw : s.arena.Facing t.arena (.var w) (.var w')) (hne : v ≠ w) :
    Agree (bindVar v (.var w)) (bindVar w' (.var v')) s t := by
  obtain ⟨howns, hunbound⟩ := hv.unbound v rfl
  obtain ⟨howns', hunbound'⟩ := hw.unbound' w' rfl
  have hne' : w' ≠ v' := fun heq => hne ((h.equivalent.facing_var_eq_iff hv hw).mpr heq.symm)
  have hlacks : s.arena.Lacks v (.var w) :=
    Arena.lacks_var (hw.unbound w rfl).1 (hw.unbound w rfl).2 hne
  have hlacks' : t.arena.Lacks w' (.var v') :=
    Arena.lacks_var (hv.unbound' v' rfl).1 (hv.unbound' v' rfl).2 hne'
  exact substitute_agree h howns hunbound howns' hunbound'
    (h.equivalent.unified hv.counterparts.equates hw.counterparts.equates
      (Arena.unified_assign h.equivalent.wellFormed howns hunbound hlacks)
      (Arena.unified_assign h.equivalent.wellFormed' howns' hunbound' hlacks').symm
      (Arena.size_assign _ _ _) (Arena.size_assign _ _ _))

/-- Down to this depth, counterparts are unified in one order as they are in the other. -/
def AgreesWithin (depth : Nat) : Prop :=
  ∀ left right left' right' (s t : Session), s.Twins t → s.arena.Counterparts left left' →
    s.arena.Counterparts right right' →
    Agree (unifyWithin depth left right) (unifyWithin depth right' left') s t

/-- Parts that are unified in turn stay counterparts, because the arena only learns. -/
theorem AgreesWithin.pairs (hagrees : AgreesWithin depth) (h : s.Twins t)
    {pairs pairs' : List (Ty × Ty)}
    (hpairs : List.Forall₂ (fun pair pair' => s.arena.Counterparts pair.1 pair'.2 ∧
      s.arena.Counterparts pair.2 pair'.1) pairs pairs') :
    Agree (pairs.forM fun (p, q) => unifyWithin depth p q)
      (pairs'.forM fun (p, q) => unifyWithin depth p q) s t := by
  refine (Together.forM (fun s₁ t₁ => s.arena.Grows s₁.arena ∧ s₁.Twins t₁) hpairs ?_ s t
    ⟨Arena.Grows.refl h.equivalent.wellFormed, h⟩).mono (fun _ _ _ _ h => h.2) fun _ _ _ _ h => h
  intro pair pair' hpair s₁ t₁ hinvariant
  obtain ⟨hgrows, h₁⟩ := hinvariant
  have hunify := (hagrees pair.1 pair.2 pair'.2 pair'.1 s₁ t₁ h₁ (hpair.1.grows hgrows)
    (hpair.2.grows hgrows)).and_left
      (unifyWithin_ends h₁.equivalent.wellFormed depth pair.1 pair.2)
  exact hunify.mono (fun _ _ _ _ h => ⟨hgrows.trans h.1.grows, h.2⟩) fun _ _ _ _ h => h.2

/-- Types are resolved and written to the trace before they are compared. What is compared then
faces its counterpart in the other run. -/
theorem resolved_agree (h : s.Twins t) (hleft : s.arena.Counterparts left left')
    (hright : s.arena.Counterparts right right') {line line' : Ty → Ty → Text}
    {compare compare' : Ty → Ty → Unifier Unit}
    (hcompare : ∀ l r l' r' (s₁ t₁ : Session), s₁.Twins t₁ → s₁.arena.Facing t₁.arena l l' →
      s₁.arena.Facing t₁.arena r r' → Agree (compare l r) (compare' r' l') s₁ t₁) :
    Agree
      (do
        let l ← query (Arena.resolve left)
        let r ← query (Arena.resolve right)
        write .unify (line l r)
        compare l r)
      (do
        let r ← query (Arena.resolve right')
        let l ← query (Arena.resolve left')
        write .unify (line' r l)
        compare' r l) s t := by
  have hfits := h.equivalent.fits hright.fits'
  have hfits' := h.equivalent.fits hleft.fits'
  refine Together.bind (query_together
    (Arena.resolve_over h.equivalent.wellFormed hleft.fits.owned)
    (Arena.resolve_over h.equivalent.wellFormed' hfits.owned)) ?_
  intro l r' s₁ t₁ hfirst
  obtain ⟨⟨hl, hs₁⟩, hr', ht₁⟩ := hfirst
  have h₁ := h.asked hs₁ ht₁
  refine Together.bind (query_together
    (Arena.resolve_over h₁.equivalent.wellFormed (hs₁.same.fits hright.fits).owned)
    (Arena.resolve_over h₁.equivalent.wellFormed' (ht₁.same.fits hfits').owned)) ?_
  intro r l' s₂ t₂ hsecond
  obtain ⟨⟨hr, hs₂⟩, hl', ht₂⟩ := hsecond
  have h₂ := h₁.asked hs₂ ht₂
  rw [hs₁.same.resolved_iff h.equivalent.wellFormed] at hr
  rw [ht₁.same.resolved_iff h.equivalent.wellFormed'] at hl'
  refine Together.bind (write_together h₂ .unify _ _) ?_
  intro _ _ s₃ t₃ hwritten
  obtain ⟨hs₃, ht₃, hmatches⟩ := hwritten
  have hequivalent : s₃.arena.Equivalent t₃.arena := by
    rw [hs₃, ht₃]
    exact h₂.equivalent
  have hsame : s.arena.Same s₃.arena := by
    rw [hs₃]
    exact hs₁.same.trans hs₂.same
  have hsame' : t.arena.Same t₃.arena := by
    rw [ht₃]
    exact ht₁.same.trans ht₂.same
  exact hcompare l r l' r' s₃ t₃ ⟨hequivalent, hmatches⟩
    ((h.equivalent.facing hleft hl hl').same h.equivalent hsame hsame')
    ((h.equivalent.facing hright hr hr').same h.equivalent hsame hsame')

/-- The induction follows the descent into the types, which goes equally deep in both runs. -/
theorem unifyWithin_agree (depth : Nat) : AgreesWithin depth := by
  induction depth with
  | zero => exact fun _ _ _ _ _ _ h _ _ => Together.throw ⟨.fault .endlessType, h⟩
  | succ depth ih =>
    intro left right left' right' s t h hleft hright
    refine resolved_agree h hleft hright ?_
    intro l r l' r' s₁ t₁ h₁ hfacing hfacing'
    have hform := hfacing.sameForm h₁.equivalent
    have hform' := hfacing'.sameForm h₁.equivalent
    have hmismatch : Agree (refuse .mismatch l r) (refuse .mismatch r' l') s₁ t₁ :=
      refuse_agree h₁ hfacing.counterparts hfacing'.counterparts fun _ _ _ _ => ⟨rfl, by simp⟩
    cases hform with
    | absent => cases hfacing.counterparts.fits.nilFree
    | var v v' =>
      cases hform' with
      | var w w' =>
        have hiff := h₁.equivalent.facing_var_eq_iff hfacing hfacing'
        by_cases hvw : v = w
        · simp only [if_pos hvw, if_pos (hiff.mp hvw).symm]
          exact Together.throw ⟨.error ⟨rfl, by simp⟩, h₁⟩
        · have hvw' : ¬ w' = v' := fun heq => hvw (hiff.mpr heq.symm)
          simp only [if_neg hvw, if_neg hvw']
          exact bindVars_agree h₁ hfacing hfacing' hvw
      | _ => exact bindVar_agree h₁ hfacing hfacing' (by simp) (by simp)
    | name m =>
      cases hform' with
      | absent => cases hfacing'.counterparts.fits.nilFree
      | var w w' => exact bindVar_agree h₁ hfacing' hfacing (by simp) (by simp)
      | name n =>
        by_cases hmn : m = n
        · simp only [if_pos hmn, if_pos hmn.symm]
          exact Together.pure h₁
        · simp only [if_neg hmn, if_neg (Ne.symm hmn)]
          exact hmismatch
      | _ => exact hmismatch
    | @fn params params' result result' hlengths =>
      cases hform' with
      | absent => cases hfacing'.counterparts.fits.nilFree
      | var w w' => exact bindVar_agree h₁ hfacing' hfacing (by simp) (by simp)
      | @fn others others' last last' hlengths' =>
        by_cases hlength : params.length = others.length
        · have hlength' : others'.length = params'.length := by omega
          simp only [ne_eq, hlength, hlength', not_true_eq_false, if_false]
          rw [unifyParts_eq (Resolver.unifyWithin Arena.resolve depth) hlength,
            unifyParts_eq (Resolver.unifyWithin Arena.resolve depth) hlength']
          exact ih.pairs h₁ (forall₂_zip_swap (hfacing.counterparts.parts hlengths)
            (hfacing'.counterparts.parts hlengths'))
        · have hlength' : ¬ others'.length = params'.length := by omega
          simp only [ne_eq, hlength, hlength', not_false_eq_true, if_true]
          exact refuse_agree h₁ hfacing.counterparts hfacing'.counterparts
            fun _ _ _ _ => ⟨rfl, by simp⟩
      | _ => exact hmismatch
    | unresolvable =>
      cases hform' with
      | absent => cases hfacing'.counterparts.fits.nilFree
      | var w w' => exact bindVar_agree h₁ hfacing' hfacing (by simp) (by simp)
      | _ => exact hmismatch

theorem unify_agree (hwf : s.arena.WellFormed) (hleft : left.Fits s.arena)
    (hright : right.Fits s.arena) : Agree (unify left right) (unify right left) s s := by
  have hbound : unify right left s =
      unifyWithin (s.arena.depthBound [left, right]) right left s := by
    rw [unify_eq_unifyWithin, Arena.depthBound_swap]
  cases unifyWithin_agree (s.arena.depthBound [left, right]) left right left right s s
      (Session.Twins.refl hwf) (Arena.Counterparts.refl hleft)
      (Arena.Counterparts.refl hright) with
  | ok hx hy h => exact .ok hx (hbound.trans hy) h
  | error hx hy h => exact .error hx (hbound.trans hy) h

end Unifier

/-- Unification is symmetric. In both orders it succeeds, or in both it fails with an error of the
same kind, where a variable that meets itself is told from one that occurs in a type. However it
ends, applying the arenas that the two orders leave makes the same types equal. The only other
failure is that of a trace which cannot take another line, and both orders share it, too. -/
theorem unification_is_symmetric {session : Session} {left right : Ty}
    (hwf : session.arena.WellFormed) (hleft : left.Over session.arena)
    (hright : right.Over session.arena) (hleftNil : left.nilFree = true)
    (hrightNil : right.nilFree = true) :
    Together (Unifier.unify left right) (Unifier.unify right left) session session
      (fun _ _ after after' => after.arena.KnowsSame after'.arena)
      fun failure failure' after after' => after.arena.KnowsSame after'.arena ∧
        ((∃ error error' : InferenceError, failure = .error error ∧ failure' = .error error' ∧
          error.SameKind error') ∨
        failure = .fault .traceFull ∧ failure' = .fault .traceFull ∧
          ¬ session.trace.Accepting) := by
  have hagree := Unifier.unify_agree hwf ⟨hleft, hleftNil⟩ ⟨hright, hrightNil⟩
  have hfails := Unifier.unify_fails hwf hleft hright hleftNil hrightNil
  refine (Together.and_left hagree hfails).mono (fun _ _ _ _ h => h.2.equivalent.knowsSame) ?_
  intro failure failure' after after' hfailure
  obtain ⟨hfailed, hkind, htwins⟩ := hfailure
  refine ⟨htwins.equivalent.knowsSame, ?_⟩
  cases hkind with
  | error hsame => exact Or.inl ⟨_, _, rfl, rfl, hsame⟩
  | fault fault =>
    rcases hfailed with ⟨error, herror, _⟩ | ⟨hfull, htrace⟩
    · cases herror
    · exact Or.inr ⟨hfull, hfull, htrace⟩

/-- `(?0, ?1) -> b` and `(?1, (?0) -> b) -> b`: one order binds `?0` and the other `?1`, and then
each finds the variable that is left in `(?0) -> b`. -/
theorem unification_is_symmetric_when_variable_occurs :
    let b : Ty := .name ⟨[98]⟩
    let left : Ty := .fn [.var ⟨0⟩, .var ⟨1⟩] b
    let right : Ty := .fn [.var ⟨1⟩, .fn [.var ⟨0⟩] b] b
    let session : Session := ⟨Arena.empty.grow 2, Trace.off⟩
    let after : Session := ⟨⟨#[some (.var ⟨1⟩), none]⟩, Trace.off⟩
    let after' : Session := ⟨⟨#[none, some (.var ⟨0⟩)]⟩, Trace.off⟩
    session.arena.WellFormed ∧ left.Over session.arena ∧ right.Over session.arena ∧
    Unifier.unify left right session =
      .error (.error (.occurs ⟨1⟩ (.fn [.var ⟨1⟩] b))) after ∧
    Unifier.unify right left session =
      .error (.error (.occurs ⟨0⟩ (.fn [.var ⟨0⟩] b))) after' ∧
    after.arena.KnowsSame after'.arena := by
  intro b left right session after after'
  have hunify : Unifier.unify left right session =
      .error (.error (.occurs ⟨1⟩ (.fn [.var ⟨1⟩] b))) after := by rfl
  have hunify' : Unifier.unify right left session =
      .error (.error (.occurs ⟨0⟩ (.fn [.var ⟨0⟩] b))) after' := by rfl
  have hwf : session.arena.WellFormed := Arena.wellFormed_empty.grow 2
  have hleft : left.Over session.arena := by decide
  have hright : right.Over session.arena := by decide
  refine ⟨hwf, hleft, hright, hunify, hunify', ?_⟩
  cases unification_is_symmetric hwf hleft hright rfl rfl with
  | ok hx _ _ =>
    rw [hunify] at hx
    cases hx
  | error hx hy h =>
    rw [hunify] at hx
    rw [hunify'] at hy
    cases hx
    cases hy
    exact h.1

end Typeflow
