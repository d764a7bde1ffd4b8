import Typeflow.Proofs.Arena.Answers

/-!
Why unification fails. Every binding that it makes is forced by the two types, so a clash that it
meets deep inside them, after any number of bindings, speaks against the types as a whole: no
solution of the arena makes them equal, unless it puts the unresolvable mark into them. The one
refusal that says nothing about solutions is that of a variable which meets itself. Types over a
well-formed arena without empty places lead to no other failure, and the descent into them has an
end.
-/

namespace Typeflow

namespace Ty

/-- The parameters of a function type, followed by its result. -/
def parts : Ty → List Ty
  | .fn params result => params ++ [result]
  | _ => []

def at? : Ty → List Nat → Option Ty
  | ty, [] => some ty
  | ty, index :: rest => ty.parts[index]?.bind fun part => part.at? rest

theorem at?_subst_fn {params : List Ty} {result part : Ty} {index : Nat}
    (h : (params ++ [result])[index]? = some part) (s : TypeVar → Ty) (rest : List Nat) :
    ((Ty.fn params result).subst s).at? (index :: rest) = (part.subst s).at? rest := by
  have hparts : ((Ty.fn params result).subst s).parts = (params ++ [result]).map (subst s) := by
    simp [parts]
  rw [at?, hparts, List.getElem?_map, h]
  rfl

mutual

/-- The type with `filler` in the place of every mark. -/
def fillMark (filler : Ty) : Ty → Ty
  | .unresolvable => filler
  | .fn params result => .fn (fillMarkList filler params) (fillMark filler result)
  | ty => ty

def fillMarkList (filler : Ty) : List Ty → List Ty
  | [] => []
  | ty :: rest => fillMark filler ty :: fillMarkList filler rest

end

theorem fillMark_fn (filler : Ty) (params : List Ty) (result : Ty) :
    fillMark filler (.fn params result) =
      .fn (params.map (fillMark filler)) (fillMark filler result) := by
  have hlist : ∀ types, fillMarkList filler types = types.map (fillMark filler) := by
    intro types
    induction types with
    | nil => rfl
    | cons ty rest ih => rw [fillMarkList, ih, List.map_cons]
  rw [fillMark, hlist]

theorem mentionsUnresolvable_fillMark {filler : Ty} (h : filler.mentionsUnresolvable = false)
    (ty : Ty) : (fillMark filler ty).mentionsUnresolvable = false := by
  induction ty using inductionOn with
  | fn params result ihp ihr =>
    rw [fillMark_fn, mentionsUnresolvable_fn]
    refine ⟨fun q hq => ?_, ihr⟩
    obtain ⟨p, hp, rfl⟩ := List.mem_map.mp hq
    exact ihp p hp
  | unresolvable => exact h
  | _ => rfl

/-- In a type without marks only what is put in for the variables is filled. -/
theorem fillMark_subst (filler : Ty) (s : TypeVar → Ty) {ty : Ty}
    (h : ty.mentionsUnresolvable = false) :
    fillMark filler (ty.subst s) = ty.subst fun v => fillMark filler (s v) := by
  induction ty using inductionOn with
  | fn params result ihp ihr =>
    obtain ⟨hparams, hresult⟩ := mentionsUnresolvable_fn.mp h
    rw [subst_fn, subst_fn, fillMark_fn, ihr hresult, List.map_map]
    refine congrArg (Ty.fn · _) (List.map_congr_left fun p hp => ?_)
    exact ihp p hp (hparams p hp)
  | unresolvable => cases h
  | _ => rfl

/-- The type can be handed to the engine: its variables are those of the arena, no place is empty,
and it is not too tall. -/
structure Usable (ty : Ty) (arena : Arena) (tallest : Nat) : Prop where
  owned : ty.Over arena
  nilFree : ty.nilFree = true
  height_le : ty.height ≤ tallest

theorem Usable.part {arena : Arena} {tallest : Nat} {params : List Ty} {result part : Ty}
    (h : (Ty.fn params result).Usable arena tallest) (hpart : part ∈ params ++ [result]) :
    part.Usable arena tallest := by
  obtain ⟨hparams, hresult⟩ := nilFree_fn.mp h.nilFree
  have hheight := Nat.le_trans (Nat.le_of_lt (height_lt_of_mem hpart)) h.height_le
  rcases List.mem_append.mp hpart with hp | hr
  · exact ⟨fun v hv => h.owned v (mem_vars_fn.mpr (Or.inl ⟨part, hp, hv⟩)), hparams part hp,
      hheight⟩
  · obtain rfl := List.mem_singleton.mp hr
    exact ⟨fun v hv => h.owned v (mem_vars_fn.mpr (Or.inr hv)), hresult, hheight⟩

end Ty

namespace Arena

variable {arena : Arena} {left right : Ty} {v : TypeVar}

/-- No solution makes the types equal, unless it puts the mark into them. -/
def Incompatible (arena : Arena) (left right : Ty) : Prop :=
  ∀ s, arena.Satisfies s → left.subst s = right.subst s →
    (left.subst s).mentionsUnresolvable = true

/-- Where neither the entries nor the types have marks, a solution with marks gives one
without. -/
theorem Incompatible.unsolvable
    (h : arena.Incompatible left right)
    (hentries : ∀ v ty, arena.entry v = some ty → ty.mentionsUnresolvable = false)
    (hleft : left.mentionsUnresolvable = false) (hright : right.mentionsUnresolvable = false) :
    ¬ ∃ s, arena.Satisfies s ∧ left.subst s = right.subst s := by
  rintro ⟨s, hs, heq⟩
  let filler : Ty := .fn [] (.var ⟨0⟩)
  have hfiller : filler.mentionsUnresolvable = false := rfl
  have hs' : arena.Satisfies fun v => Ty.fillMark filler (s v) := by
    intro v ty hentry
    show Ty.fillMark filler (s v) = _
    rw [hs v ty hentry]
    exact Ty.fillMark_subst filler s (hentries v ty hentry)
  have hmark := h _ hs'
    (by rw [← Ty.fillMark_subst _ _ hleft, ← Ty.fillMark_subst _ _ hright, heq])
  rw [← Ty.fillMark_subst _ _ hleft, Ty.mentionsUnresolvable_fillMark hfiller] at hmark
  cases hmark

theorem incompatible_name {m n : Identifier} (h : m ≠ n) :
    arena.Incompatible (.name m) (.name n) := by
  intro s _ heq
  cases heq
  exact absurd rfl h

theorem incompatible_arity {params params' : List Ty} {result result' : Ty}
    (h : params.length ≠ params'.length) :
    arena.Incompatible (.fn params result) (.fn params' result') := by
  intro s _ heq
  rw [Ty.subst_fn, Ty.subst_fn, Ty.fn.injEq] at heq
  have hlengths := congrArg List.length heq.1
  rw [List.length_map, List.length_map] at hlengths
  exact absurd hlengths h

/-- Types of different forms stay different, and the mark agrees with nothing. -/
theorem incompatible_form (hleft : ∀ v, left ≠ .var v) (hright : ∀ v, right ≠ .var v)
    (hnil : left.nilFree = true) (hnames : ∀ m n, left = .name m → right ≠ .name n)
    (hfns : ∀ params result params' result', left = .fn params result →
      right ≠ .fn params' result') : arena.Incompatible left right := by
  intro s _ heq
  cases left with
  | unresolvable => rfl
  | var v => exact absurd rfl (hleft v)
  | absent => cases hnil
  | name m =>
    cases right with
    | name n => exact absurd rfl (hnames m n rfl)
    | var w => exact absurd rfl (hright w)
    | _ => simp at heq
  | fn params result =>
    cases right with
    | fn params' result' => exact absurd rfl (hfns params result params' result' rfl)
    | var w => exact absurd rfl (hright w)
    | _ => simp at heq

/-- The unbound variable stands at one and the same position of both solved types. -/
def Meets (arena : Arena) (v : TypeVar) (left right : Ty) : Prop :=
  (arena.Owns v ∧ arena.entry v = none) ∧
    ∃ position, (left.subst arena.solved).at? position = some (.var v) ∧
      (right.subst arena.solved).at? position = some (.var v)

theorem resolve_origin (arena : Arena) (ty : Ty) :
    Ends (resolve ty) arena
      (fun resolved _ => resolved = ty ∨ ∃ w, arena.entry w = some resolved) fun _ _ => True := by
  cases hfollow : arena.follow arena.size ty with
  | error fault =>
    have hresolve : resolve ty arena = .error fault arena := by
      unfold resolve
      rw [hfollow]
    exact Ends.of_eq_error hresolve trivial
  | ok found =>
    obtain ⟨target, passed⟩ := found
    have hresolve : resolve ty arena = .ok target (arena.compress passed target) := by
      unfold resolve
      rw [hfollow]
    refine Ends.of_eq_ok hresolve ?_
    cases follows_of_follow hfollow with
    | stop => exact Or.inl rfl
    | pass hentry hpath => exact Or.inr (hpath.exists_entry hentry)

end Arena

/-- The second session means the same as the first and takes what the first takes. -/
structure Session.Alike (session session' : Session) : Prop where
  same : session.arena.Same session'.arena
  accepting : session.trace.Accepting → session'.trace.Accepting

/-- The second session knows at least what the first knows, about the same variables, and its
entries are not too tall. -/
structure Session.Extends (tallest : Nat) (session session' : Session) : Prop where
  grows : session.arena.Grows session'.arena
  size_eq : session'.arena.size = session.arena.size
  height_le : ∀ v ty, session'.arena.entry v = some ty → ty.height ≤ tallest
  accepting : session.trace.Accepting → session'.trace.Accepting

/-- The type stays within the depth in every session that can follow. -/
def Session.Affords (tallest depth : Nat) (session : Session) (ty : Ty) : Prop :=
  ∀ session', session.Extends tallest session' → (ty.subst session'.arena.solved).height ≤ depth

namespace Session

variable {tallest depth : Nat} {session s₁ s₂ : Session} {ty : Ty}

theorem Alike.trans (h : session.Alike s₁) (h' : s₁.Alike s₂) : session.Alike s₂ :=
  ⟨h.same.trans h'.same, fun hs => h'.accepting (h.accepting hs)⟩

theorem Extends.trans (h : session.Extends tallest s₁) (h' : s₁.Extends tallest s₂) :
    session.Extends tallest s₂ :=
  ⟨h.grows.trans h'.grows, h'.size_eq.trans h.size_eq, h'.height_le,
    fun hs => h'.accepting (h.accepting hs)⟩

theorem Extends.self (h : session.Extends tallest s₁) : s₁.Extends tallest s₁ :=
  ⟨Arena.Grows.refl h.grows.wellFormed, rfl, h.height_le, fun hs => hs⟩

theorem Extends.alike (h : session.Extends tallest s₁) (h' : s₁.Alike s₂) :
    session.Extends tallest s₂ := by
  refine ⟨h.grows.trans (h'.same.grows h.grows.wellFormed), h'.same.size_eq.trans h.size_eq, ?_,
    fun hs => h'.accepting (h.accepting hs)⟩
  intro v ty hentry
  obtain ⟨w, hw⟩ := h'.same.entry_mem v ty hentry
  exact h.height_le w ty hw

theorem Extends.usable (h : session.Extends tallest s₁) (hty : ty.Usable session.arena tallest) :
    ty.Usable s₁.arena tallest :=
  ⟨h.grows.owned hty.owned, hty.nilFree, hty.height_le⟩

theorem Affords.extends (h : session.Affords tallest depth ty)
    (hext : session.Extends tallest s₁) :
    s₁.Affords tallest depth ty :=
  fun s' hs' => h s' (hext.trans hs')

theorem Affords.part {params : List Ty} {result part : Ty}
    (h : session.Affords tallest (depth + 1) (.fn params result))
    (hpart : part ∈ params ++ [result]) : session.Affords tallest depth part := by
  intro s' hs'
  have hheight := h s' hs'
  have hlt := Ty.height_subst_lt_of_mem hpart s'.arena.solved
  omega

theorem Affords.resolved {resolved : Ty} (h : session.Affords tallest depth ty)
    (hwf : session.arena.WellFormed) (hresolved : session.arena.Resolved ty resolved) :
    session.Affords tallest depth resolved := by
  intro s' hs'
  rw [← hresolved.subst_of_grows hwf hs'.grows]
  exact h s' hs'

/-- Why the two types are refused in a session, and what the session left behind has to do with
it. -/
inductive Rejection (session : Session) (left right : Ty) : Failure → Session → Prop
  | clash {error : InferenceError} {s' : Session} :
      (error.kind = .mismatch ∨ error.kind = .arity ∨ ∃ v ty, error = .occurs v ty) →
      session.arena.Incompatible left right → Rejection session left right (.error error) s'
  | self {v : TypeVar} {s' : Session} :
      session.arena.Grows s'.arena → s'.arena.Meets v left right →
      Rejection session left right (.error (.self v)) s'
  | traceFull {s' : Session} :
      ¬ session.trace.Accepting → Rejection session left right (.fault .traceFull) s'

/-- What speaks against two types in a later session speaks against those they come from. -/
theorem Rejection.of_step {left right p q : Ty} {failure : Failure} {s' : Session}
    (h : s₁.Rejection p q failure s') (hgrows : session.arena.Grows s₁.arena)
    (haccepting : session.trace.Accepting → s₁.trace.Accepting)
    (hsolution : ∀ s, session.arena.Satisfies s → left.subst s = right.subst s →
      s₁.arena.Satisfies s ∧ p.subst s = q.subst s ∧
        ((p.subst s).mentionsUnresolvable = true → (left.subst s).mentionsUnresolvable = true))
    (hmeets : ∀ arena v, s₁.arena.Grows arena → arena.Meets v p q → arena.Meets v left right) :
    session.Rejection left right failure s' := by
  cases h with
  | clash hkind hclash =>
    refine .clash hkind fun s hs heq => ?_
    obtain ⟨hs₁, hpq, hmark⟩ := hsolution s hs heq
    exact hmark (hclash s hs₁ hpq)
  | self hgrows' hself => exact .self (hgrows.trans hgrows') (hmeets _ _ hgrows' hself)
  | traceFull hfull => exact .traceFull fun hs => hfull (haccepting hs)

/-- It does not matter whether types are refused before or after they have been resolved. -/
theorem Rejection.of_resolved {left right left' right' : Ty} {failure : Failure} {s' : Session}
    (h : s₁.Rejection left' right' failure s') (hwf : session.arena.WellFormed)
    (halike : session.Alike s₁) (hleft : session.arena.Resolved left left')
    (hright : session.arena.Resolved right right') : session.Rejection left right failure s' := by
  have hgrows := halike.same.grows hwf
  refine h.of_step hgrows halike.accepting (fun s hs heq => ?_) ?_
  · rw [hleft.subst_of_satisfies hwf hs] at heq ⊢
    rw [hright.subst_of_satisfies hwf hs] at heq
    exact ⟨(halike.same.satisfies_iff hwf).mpr hs, heq, fun h => h⟩
  · rintro arena v hgrows' ⟨hunbound, position, hleftAt, hrightAt⟩
    have hgrows'' := hgrows.trans hgrows'
    refine ⟨hunbound, position, ?_, ?_⟩
    · rw [hleft.subst_of_grows hwf hgrows'']
      exact hleftAt
    · rw [hright.subst_of_grows hwf hgrows'']
      exact hrightAt

theorem Rejection.symm {left right : Ty} {failure : Failure} {s' : Session}
    (h : session.Rejection left right failure s') : session.Rejection right left failure s' := by
  cases h with
  | clash hkind hclash =>
    refine .clash hkind fun s hs heq => ?_
    rw [heq]
    exact hclash s hs heq.symm
  | self hgrows hself =>
    obtain ⟨hunbound, position, hleft, hright⟩ := hself
    exact .self hgrows ⟨hunbound, position, hright, hleft⟩
  | traceFull hfull => exact .traceFull hfull

end Session

namespace Unifier

variable {tallest depth : Nat} {session : Session} {v : TypeVar} {left right ty : Ty}

theorem query_alike {α : Type} {ask : Query α} {holds : α → Prop} {bad : Failure → Session → Prop}
    (h : Ends ask session.arena (fun answer arena' => holds answer ∧ session.arena.Same arena')
      fun _ _ => False) :
    Ends (query ask) session (fun answer s' => holds answer ∧ session.Alike s') bad := by
  refine query_ends (Ends.of_total (h.mono ?_ fun _ _ h => h))
  exact fun _ _ h => ⟨h.1, h.2, fun hs => hs⟩

theorem write_alike (hwf : session.arena.WellFormed) (channel : Channel) (line : Text) :
    Ends (write channel line) session (fun _ s' => session.Alike s' ∧ s'.arena = session.arena)
      fun failure _ => failure = .fault .traceFull ∧ ¬ session.trace.Accepting := by
  have hsame := Arena.Same.refl hwf
  unfold Ends write Trace.write
  by_cases hchannel : channel ∈ session.trace.channels
  · cases hfull : session.trace.isFull with
    | true =>
      simp only [hchannel, if_true]
      refine ⟨trivial, ?_⟩
      rintro (hnone | hlimit)
      · rw [hnone] at hchannel
        cases hchannel
      · simp [Trace.isFull, hlimit] at hfull
    | false =>
      simp only [hchannel, if_true]
      exact ⟨⟨hsame, fun hs => hs⟩, rfl⟩
  · simp only [hchannel, if_false]
    exact ⟨⟨hsame, fun hs => hs⟩, trivial⟩

theorem resolve_alike (hstart : session.Extends tallest session)
    (hty : ty.Usable session.arena tallest) {bad : Failure → Session → Prop} :
    Ends (query (Arena.resolve ty)) session
      (fun resolved s' => (session.arena.Resolved ty resolved ∧
        resolved.Usable session.arena tallest) ∧ session.Alike s') bad := by
  have hresolve := (Arena.resolve_over hstart.grows.wellFormed hty.owned).and
    (Arena.resolve_origin session.arena ty)
  refine query_alike (hresolve.mono ?_ fun _ _ h => h.1)
  rintro resolved arena' ⟨⟨hresolved, hsame⟩, horigin⟩
  refine ⟨⟨hresolved, hresolved.over_iff.mpr hty.owned,
    hresolved.nilFree_eq.trans hty.nilFree, ?_⟩,
    hsame⟩
  rcases horigin with rfl | ⟨w, hw⟩
  · exact hty.height_le
  · exact hstart.height_le w resolved hw

/-- The error of a refusal carries both types as the arena knows them. -/
theorem refuse_rejects (hwf : session.arena.WellFormed) (hleft : left.Over session.arena)
    (hright : right.Over session.arena) {reason : Ty → Ty → InferenceError}
    (hreason : ∀ l r, (reason l r).kind = .mismatch ∨ (reason l r).kind = .arity)
    (hclash : session.arena.Incompatible left right) {good : Unit → Session → Prop} :
    Ends (refuse reason left right) session good (session.Rejection left right) := by
  refine Ends.bind (query_alike (Arena.apply_ends hwf hleft)) ?_
  rintro left' s₁ ⟨_, hs₁⟩
  refine Ends.bind (query_alike (Arena.apply_ends hs₁.same.wellFormed
    (hs₁.same.over_iff.mpr hright))) ?_
  rintro right' s₂ _
  refine Ends.throw (.clash ?_ hclash)
  rcases hreason left' right' with h | h
  · exact Or.inl h
  · exact Or.inr (Or.inl h)

theorem substitute_rejects (hstart : session.Extends tallest session)
    (howns : session.arena.Owns v) (hunbound : session.arena.entry v = none)
    (hty : ty.Usable session.arena tallest)
    (hlacks : session.arena.Lacks v ty) :
    Ends (substitute v ty) session (fun _ s' => session.Extends tallest s')
      (session.Rejection (.var v) ty) := by
  have hwf := hstart.grows.wellFormed
  refine Ends.bind_of_ok (lookup_unbound howns hunbound) ?_
  refine Ends.bind ((write_alike hwf _ _).mono (fun _ _ h => h) ?_) ?_
  · rintro _ s₁ ⟨rfl, hfull⟩
    exact .traceFull hfull
  rintro _ s₁ ⟨halike, harena⟩
  have hassign := Arena.unified_assign hwf howns hunbound hlacks
  refine Ends.of_eq_ok rfl ?_
  simp only [harena]
  refine ⟨hassign.grows, Arena.size_assign _ _ _, ?_, halike.accepting⟩
  intro w u hu
  rw [Arena.entry_assign howns (Ty.ne_absent_of_nilFree hty.nilFree)] at hu
  split at hu
  · cases hu
    exact hty.height_le
  · exact hstart.height_le w u hu

/-- A variable can only be refused for a type in which it occurs. -/
theorem bindVar_rejects (hstart : session.Extends tallest session) (howns : session.arena.Owns v)
    (hunbound : session.arena.entry v = none) (hty : ty.Usable session.arena tallest)
    (hvar : ∀ w, ty = .var w → w ≠ v ∧ session.arena.entry w = none) :
    Ends (bindVar v ty) session (fun _ s' => session.Extends tallest s')
      (session.Rejection (.var v) ty) := by
  have hwf := hstart.grows.wellFormed
  unfold bindVar Resolver.bindVar
  split
  · rename_i w
    obtain ⟨hne, hwunbound⟩ := hvar w rfl
    exact substitute_rejects hstart howns hunbound hty
      (Arena.lacks_var (hty.owned w (by simp)) hwunbound (Ne.symm hne))
  · rename_i hnotVar
    refine Ends.bind (query_alike (Arena.occurs_total hwf hty.owned hty.nilFree v)) ?_
    rintro answer s₁ ⟨hanswer, halike⟩
    have hover₁ := halike.same.over_iff.mpr hty.owned
    cases answer with
    | true =>
      have hmem := hanswer.mp rfl
      refine Ends.bind (query_alike (Arena.apply_ends halike.same.wellFormed hover₁)) ?_
      rintro value s₂ _
      refine Ends.throw (.clash (Or.inr (Or.inr ⟨v, value, rfl⟩)) fun s hs heq => ?_)
      have hsolved : ∀ w, ty.subst session.arena.solved ≠ .var w := by
        intro w hw
        cases ty with
        | var x => exact hnotVar x rfl
        | _ => simp at hw
      rw [Ty.subst_var, ← hwf.subst_solved hs ty] at heq
      exact absurd heq (Ty.ne_subst_of_mem_vars hmem hsolved s)
    | false =>
      have hlacks : session.arena.Lacks v ty :=
        ⟨hty.owned, hty.nilFree, fun hmem => Bool.false_ne_true (hanswer.mpr hmem)⟩
      have hext := hstart.alike halike
      have hbind := substitute_rejects hext.self (halike.same.owns_iff.mpr howns)
        ((halike.same.entry_eq_none_iff hwf).mpr hunbound) (hext.usable hty)
        (halike.same.lacks_iff.mpr hlacks)
      refine hbind.mono (fun _ _ h => hext.trans h) fun _ _ h => ?_
      refine h.of_step hext.grows hext.accepting (fun s hs heq => ?_) fun _ _ _ h => h
      exact ⟨(halike.same.satisfies_iff hwf).mpr hs, heq, fun h => h⟩

/-- Within this depth unification of usable types fails only by a clash that rules all solutions
out, by a variable that meets itself, or because the trace is full. -/
def RejectsWithin (tallest depth : Nat) : Prop :=
  ∀ left right (session : Session), session.Extends tallest session →
    left.Usable session.arena tallest → right.Usable session.arena tallest →
    session.Affords tallest depth left →
    Ends (unifyWithin depth left right) session (fun _ s' => session.Extends tallest s')
      (session.Rejection left right)

/-- A pair is refused in a session that every solution of all pairs satisfies. -/
theorem unifyPairs_rejects (hunify : RejectsWithin tallest depth)
    (hstart : session.Extends tallest session) (pairs : List (Ty × Ty))
    (hpairs : ∀ pair ∈ pairs, pair.1.Usable session.arena tallest ∧
      pair.2.Usable session.arena tallest ∧ session.Affords tallest depth pair.1) :
    Ends (pairs.forM fun (p, q) => unifyWithin depth p q) session
      (fun _ s' => session.Extends tallest s')
      fun failure s' => ∃ (index : Nat) (p q : Ty) (s₁ : Session), pairs[index]? = some (p, q) ∧
        session.Extends tallest s₁ ∧
        (∀ s, session.arena.Satisfies s → (∀ pair ∈ pairs, pair.1.subst s = pair.2.subst s) →
          s₁.arena.Satisfies s) ∧ s₁.Rejection p q failure s' := by
  refine (Ends.forM (fun rest s₁ => ∃ done, pairs = done ++ rest ∧ session.Extends tallest s₁ ∧
    ∀ s, session.arena.Satisfies s → (∀ pair ∈ done, pair.1.subst s = pair.2.subst s) →
      s₁.arena.Satisfies s) ?_ pairs session ⟨[], rfl, hstart, fun _ hs _ => hs⟩).mono ?_
    fun _ _ h => h
  · rintro ⟨p, q⟩ rest s₁ ⟨done, rfl, hext, hsatisfies⟩
    obtain ⟨hp, hq, hdepth⟩ := hpairs (p, q) (by simp)
    have hboth := (hunify p q s₁ hext.self (hext.usable hp) (hext.usable hq)
      (hdepth.extends hext)).and (unifyWithin_ends hext.grows.wellFormed depth p q)
    refine hboth.mono ?_ ?_
    · rintro _ s₂ ⟨hext₂, hunified⟩
      refine ⟨done ++ [(p, q)], by simp, hext.trans hext₂, fun s hs hdone => ?_⟩
      refine (hunified.satisfies_iff s).mpr ⟨hsatisfies s hs fun pair hpair => ?_, ?_⟩
      · exact hdone pair (by simp [hpair])
      · exact hdone (p, q) (by simp)
    · rintro failure s₂ ⟨hrejection, _⟩
      refine ⟨done.length, p, q, s₁, by simp, hext, fun s hs hall => ?_, hrejection⟩
      exact hsatisfies s hs fun pair hpair => hall pair (List.mem_append_left _ hpair)
  · rintro _ s' ⟨_, _, hext, _⟩
    exact hext

theorem unifyParts_eq (unifyPart : Ty → Ty → Unifier Unit) {params params' : List Ty}
    {result result' : Ty} (hlength : params.length = params'.length) :
    (do
      (params.zip params').forM fun (p, q) => unifyPart p q
      unifyPart result result') =
    ((params ++ [result]).zip (params' ++ [result'])).forM fun (p, q) => unifyPart p q := by
  simp [List.zip_append hlength]

theorem unifyParts_rejects {params params' : List Ty} {result result' : Ty}
    (hunify : RejectsWithin tallest depth)
    (hstart : session.Extends tallest session) (hlength : params.length = params'.length)
    (hleft : (Ty.fn params result).Usable session.arena tallest)
    (hright : (Ty.fn params' result').Usable session.arena tallest)
    (hdepth : session.Affords tallest (depth + 1) (.fn params result)) :
    Ends (do
        (params.zip params').forM fun (p, q) => unifyWithin depth p q
        unifyWithin depth result result') session (fun _ s' => session.Extends tallest s')
      (session.Rejection (.fn params result) (.fn params' result')) := by
  have hpairs : ∀ pair ∈ (params ++ [result]).zip (params' ++ [result']),
      pair.1.Usable session.arena tallest ∧ pair.2.Usable session.arena tallest ∧
        session.Affords tallest depth pair.1 := by
    intro pair hpair
    obtain ⟨hp, hq⟩ := List.of_mem_zip hpair
    exact ⟨hleft.part hp, hright.part hq, hdepth.part hp⟩
  rw [unifyParts_eq (unifyWithin depth) hlength]
  refine (unifyPairs_rejects hunify hstart _ hpairs).mono (fun _ _ h => h) ?_
  rintro failure s' ⟨index, p, q, s₁, hget, hext, hsatisfies, hrejection⟩
  obtain ⟨hp, hq⟩ : (params ++ [result])[index]? = some p ∧
      (params' ++ [result'])[index]? = some q := by
    simpa [List.getElem?_zip_eq_some] using hget
  refine hrejection.of_step hext.grows hext.accepting (fun s hs heq => ?_) ?_
  · have hall : ∀ pair ∈ (params ++ [result]).zip (params' ++ [result']),
        pair.1.subst s = pair.2.subst s := by
      rw [List.zip_append hlength, List.forall_mem_append]
      simpa using (Ty.subst_fn_eq_iff hlength).mp heq
    refine ⟨hsatisfies s hs hall, hall (p, q) (List.mem_of_getElem? hget), fun hmark => ?_⟩
    by_contra hfree
    rw [Bool.not_eq_true, Ty.subst_fn, Ty.mentionsUnresolvable_fn] at hfree
    have hpart : (p.subst s).mentionsUnresolvable = false := by
      rcases List.mem_append.mp (List.mem_of_getElem? hp) with hp | hp
      · exact hfree.1 _ (List.mem_map_of_mem hp)
      · rw [List.mem_singleton.mp hp]
        exact hfree.2
    rw [hpart] at hmark
    cases hmark
  · rintro arena v _ ⟨hunbound, position, hleftAt, hrightAt⟩
    refine ⟨hunbound, index :: position, ?_, ?_⟩
    · rw [Ty.at?_subst_fn hp]
      exact hleftAt
    · rw [Ty.at?_subst_fn hq]
      exact hrightAt

/-- The induction follows the descent into the types, and the depth is that of the solved
types. -/
theorem unifyWithin_rejects (tallest depth : Nat) : RejectsWithin tallest depth := by
  induction depth with
  | zero =>
    intro left right session hstart _ _ hdepth
    have hheight := hdepth session hstart
    have hpos := (left.subst session.arena.solved).height_pos
    omega
  | succ depth ih =>
    intro left right session hstart hleft hright hdepth
    have hwf := hstart.grows.wellFormed
    refine Ends.bind (resolve_alike hstart hleft) ?_
    rintro left' s₁ ⟨⟨hresolved, hleft'⟩, halike₁⟩
    have hext₁ := hstart.alike halike₁
    refine Ends.bind (resolve_alike hext₁.self (hext₁.usable hright)) ?_
    rintro right' s₂ ⟨⟨hresolved', hright'⟩, halike₂⟩
    rw [halike₁.same.resolved_iff hwf] at hresolved'
    have halike₁₂ := halike₁.trans halike₂
    refine Ends.bind ((write_alike halike₂.same.wellFormed _ _).mono (fun _ _ h => h.1) ?_) ?_
    · rintro _ s₃ ⟨rfl, hfull⟩
      exact .traceFull fun hs => hfull (halike₁₂.accepting hs)
    intro _ s₃ halike₃
    have halike := halike₁₂.trans halike₃
    have hext := hstart.alike halike
    have hleftVar := ((halike.same.resolved_iff hwf).mpr hresolved).unbound
    have hrightVar := ((halike.same.resolved_iff hwf).mpr hresolved').unbound
    have husable := hext.usable hleft'
    have husable' := (hext₁.self.alike (halike₂.trans halike₃)).usable hright'
    have haffords := (hdepth.resolved hwf hresolved).extends hext
    suffices hbody : Ends _ s₃ (fun _ s' => s₃.Extends tallest s')
        (s₃.Rejection left' right') from
      hbody.mono (fun _ _ h => hext.trans h) fun _ _ h =>
        h.of_resolved hwf halike hresolved hresolved'
    have hwf₃ := hext.grows.wellFormed
    have hrefuse : ∀ {reason : Ty → Ty → InferenceError},
        (∀ l r, (reason l r).kind = .mismatch ∨ (reason l r).kind = .arity) →
        s₃.arena.Incompatible left' right' →
        Ends (refuse reason left' right') s₃ (fun _ s' => s₃.Extends tallest s')
          (s₃.Rejection left' right') := fun hreason hclash =>
      refuse_rejects hwf₃ husable.owned husable'.owned hreason hclash
    split
    · rename_i v w
      obtain ⟨hv, hvunbound⟩ := hleftVar v rfl
      by_cases hvw : v = w
      · rw [if_pos hvw]
        subst hvw
        have hsolved := Arena.solved_unbound hvunbound
        refine Ends.throw (.self (Arena.Grows.refl hwf₃) ⟨⟨hv, hvunbound⟩, [], ?_, ?_⟩)
        · exact congrArg some hsolved
        · exact congrArg some hsolved
      · rw [if_neg hvw]
        refine bindVar_rejects hext.self hv hvunbound husable' fun x hx => ?_
        cases hx
        exact ⟨fun h => hvw h.symm, (hrightVar w rfl).2⟩
    · rename_i v hnotVar
      obtain ⟨hv, hvunbound⟩ := hleftVar v rfl
      exact bindVar_rejects hext.self hv hvunbound husable' fun x hx => (hnotVar x hx).elim
    · rename_i w hnotVar
      obtain ⟨hw, hwunbound⟩ := hrightVar w rfl
      have hbind := bindVar_rejects hext.self hw hwunbound husable fun x hx => (hnotVar x hx).elim
      exact hbind.mono (fun _ _ h => h) fun _ _ h => h.symm
    · rename_i m n
      by_cases hmn : m = n
      · rw [if_pos hmn]
        exact Ends.pure hext.self
      · rw [if_neg hmn]
        exact hrefuse (fun _ _ => Or.inl rfl) (Arena.incompatible_name hmn)
    · rename_i params result params' result'
      by_cases hlength : params.length = params'.length
      · rw [if_neg (not_not_intro hlength)]
        exact unifyParts_rejects ih hext.self hlength husable husable' haffords
      · rw [if_pos hlength]
        exact hrefuse (fun _ _ => Or.inr rfl) (Arena.incompatible_arity hlength)
    · cases husable.nilFree
    · rename_i hleftVar _ hrightVar _ hnames hfns
      exact hrefuse (fun _ _ => Or.inl rfl)
        (Arena.incompatible_form hleftVar hrightVar husable.nilFree hnames hfns)

/-- Unification ends, with a trace that takes what it took before, or for one of these reasons. -/
theorem unify_rejects (hwf : session.arena.WellFormed) (hleft : left.Over session.arena)
    (hright : right.Over session.arena) (hleftNil : left.nilFree = true)
    (hrightNil : right.nilFree = true) :
    Ends (unify left right) session
      (fun _ s' => session.trace.Accepting → s'.trace.Accepting)
      (session.Rejection left right) := by
  obtain ⟨tallest, hbound, htypes, hentries⟩ := Arena.exists_tallest session.arena [left, right]
  have hstart : session.Extends tallest session :=
    ⟨Arena.Grows.refl hwf, rfl, hentries, fun hs => hs⟩
  have hdepth : session.Affords tallest (session.arena.depthBound [left, right]) left := by
    intro s' hs'
    rw [hbound, ← hs'.size_eq]
    exact hs'.grows.wellFormed.height_subst_solved_le_of_entries hs'.height_le
      (htypes left (by simp))
      (hs'.grows.owned hleft)
  exact (unifyWithin_rejects tallest _ left right session hstart
    ⟨hleft, hleftNil, htypes left (by simp)⟩
    ⟨hright, hrightNil, htypes right (by simp)⟩ hdepth).mono
      (fun _ _ h => h.accepting) fun _ _ h => h

end Unifier

/-- Unification rejects solvable equations only because a variable meets itself. Where the mark
stands in none of the types, a mismatch, a wrong number of parameters and a failed occurs check
each mean that no solution of the arena makes the types equal. A variable that is reported by
itself is unbound, and it stands at one and the same position of both types in the arena that is
left behind. -/
theorem unify_rejects_unsolvable {session session' : Session} {left right : Ty}
    {error : InferenceError} (hwf : session.arena.WellFormed) (hleft : left.Over session.arena)
    (hright : right.Over session.arena) (hleftNil : left.nilFree = true)
    (hrightNil : right.nilFree = true)
    (hentries : ∀ v ty, session.arena.entry v = some ty → ty.mentionsUnresolvable = false)
    (hleftMark : left.mentionsUnresolvable = false)
    (hrightMark : right.mentionsUnresolvable = false)
    (herror : Unifier.unify left right session = .error (.error error) session') :
    ((error.kind = .mismatch ∨ error.kind = .arity ∨ ∃ v ty, error = .occurs v ty) →
      ¬ ∃ s : TypeVar → Ty, session.arena.Satisfies s ∧ left.subst s = right.subst s) ∧
    ∀ v, error = .self v → session'.arena.lookup v = .ok none ∧
      ∃ left' right' position, session'.arena.Applies left left' ∧
        session'.arena.Applies right right' ∧ left'.at? position = some (.var v) ∧
        right'.at? position = some (.var v) := by
  have hrejection := (Unifier.unify_rejects hwf hleft hright hleftNil hrightNil).bad_of_eq herror
  have hgrows := (Unifier.unify_ends hwf left right).bad_of_eq herror
  constructor
  · intro hkind
    cases hrejection with
    | clash _ hclash => exact hclash.unsolvable hentries hleftMark hrightMark
    | self => simp [InferenceError.kind] at hkind
  · rintro v rfl
    cases hrejection with
    | clash hkind => simp [InferenceError.kind] at hkind
    | self _ hmeets =>
      obtain ⟨⟨howns, hunbound⟩, position, hleftAt, hrightAt⟩ := hmeets
      refine ⟨?_, _, _, position, ?_, ?_, hleftAt, hrightAt⟩
      · rw [Arena.lookup_of_owns howns, hunbound]
      · exact (Arena.applies_iff hgrows.wellFormed).mpr ⟨hgrows.owned hleft, rfl⟩
      · exact (Arena.applies_iff hgrows.wellFormed).mpr ⟨hgrows.owned hright, rfl⟩

/-- `(?0, ?1) -> b` and `(?1, (?0) -> b) -> b` have no common instance: the occurs check fails
after the first parameters have been made equal. In `(?0, ?1) -> b` and `(?1, ?0) -> b` the second
parameters are then one and the same variable. -/
theorem unify_rejects_unsolvable_after_binding :
    let session : Session := ⟨Arena.empty.grow 2, Trace.off⟩
    let b : Ty := .name ⟨[98]⟩
    let left : Ty := .fn [.var ⟨0⟩, .var ⟨1⟩] b
    let right : Ty := .fn [.var ⟨1⟩, .fn [.var ⟨0⟩] b] b
    let swapped : Ty := .fn [.var ⟨1⟩, .var ⟨0⟩] b
    let session' : Session := ⟨⟨#[some (.var ⟨1⟩), none]⟩, Trace.off⟩
    session.arena.WellFormed ∧ left.Over session.arena ∧ right.Over session.arena ∧
      swapped.Over session.arena ∧
      (Unifier.unify left right session =
          .error (.error (.occurs ⟨1⟩ (.fn [.var ⟨1⟩] b))) session' ∧
        ¬ ∃ s : TypeVar → Ty, session.arena.Satisfies s ∧ left.subst s = right.subst s) ∧
      Unifier.unify left swapped session = .error (.error (.self ⟨1⟩)) session' ∧
        session'.arena.lookup ⟨1⟩ = .ok none ∧
        ∃ left' right' position, session'.arena.Applies left left' ∧
          session'.arena.Applies swapped right' ∧ left'.at? position = some (.var ⟨1⟩) ∧
          right'.at? position = some (.var ⟨1⟩) := by
  intro session b left right swapped session'
  have hwf : session.arena.WellFormed := Arena.wellFormed_empty.grow 2
  have hleft : left.Over session.arena := by decide
  have hright : right.Over session.arena := by decide
  have hswapped : swapped.Over session.arena := by decide
  have hentries : ∀ v ty, session.arena.entry v = some ty → ty.mentionsUnresolvable = false := by
    intro v ty hentry
    rw [Arena.entry_grow, Arena.entry_empty] at hentry
    cases hentry
  have hoccurs : Unifier.unify left right session =
      .error (.error (.occurs ⟨1⟩ (.fn [.var ⟨1⟩] b))) session' := by rfl
  have hself : Unifier.unify left swapped session = .error (.error (.self ⟨1⟩)) session' := by rfl
  refine ⟨hwf, hleft, hright, hswapped, ⟨hoccurs, ?_⟩, hself, ?_⟩
  · exact (unify_rejects_unsolvable hwf hleft hright rfl rfl hentries rfl rfl hoccurs).1
      (Or.inr (Or.inr ⟨_, _, rfl⟩))
  · exact (unify_rejects_unsolvable hwf hleft hswapped rfl rfl hentries rfl rfl hself).2 ⟨1⟩ rfl

end Typeflow
