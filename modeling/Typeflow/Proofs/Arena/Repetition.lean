import Typeflow.Proofs.Arena.Applied
import Typeflow.Proofs.Arena.Equivalence

/-!
Unifying types that are equal already. There is nothing left to bind: such types have the same
form wherever the descent meets them, and it ends at names that are equal, at a variable that
meets itself, or at the mark, which agrees with nothing. So the types are accepted exactly if they
are known in full, and accepted or refused the arena means what it meant before.
-/

namespace Typeflow

namespace Ty

/-- Neither a variable nor the mark stands in the type. -/
def Known (ty : Ty) : Prop := (∀ v, ¬ ty.Contains (.var v)) ∧ ¬ ty.Contains .unresolvable

theorem known_name (n : Identifier) : (Ty.name n).Known := by
  refine ⟨fun v h => ?_, fun h => ?_⟩
  · exact absurd ((contains_of_parts_eq_nil rfl).mp h) (by simp)
  · exact absurd ((contains_of_parts_eq_nil rfl).mp h) (by simp)

theorem not_known_var (v : TypeVar) : ¬ (Ty.var v).Known := fun h => h.1 v ⟨[], rfl⟩

theorem not_known_unresolvable : ¬ Ty.unresolvable.Known := fun h => h.2 ⟨[], rfl⟩

theorem known_fn {params : List Ty} {result : Ty} :
    (Ty.fn params result).Known ↔ ∀ part ∈ params ++ [result], part.Known := by
  constructor
  · intro h part hpart
    exact ⟨fun v hv => h.1 v (contains_fn.mpr (Or.inr ⟨part, hpart, hv⟩)),
      fun hmark => h.2 (contains_fn.mpr (Or.inr ⟨part, hpart, hmark⟩))⟩
  · intro h
    refine ⟨fun v hv => ?_, fun hmark => ?_⟩
    · rcases contains_fn.mp hv with heq | ⟨part, hpart, hv⟩
      · cases heq
      · exact (h part hpart).1 v hv
    · rcases contains_fn.mp hmark with heq | ⟨part, hpart, hmark⟩
      · cases heq
      · exact (h part hpart).2 hmark

end Ty

namespace Unifier

variable {session : Session} {left right : Ty} {depth : Nat}

theorem refuse_same (hwf : session.arena.WellFormed) (reason : Ty → Ty → InferenceError)
    {good : Unit → Session → Prop} :
    Ends (refuse reason left right) session good fun _ s' => session.arena.Same s'.arena := by
  have hsame := Arena.Same.refl hwf
  refine Ends.bind (query_same (Arena.apply_keeps left) session hsame) fun _ s₁ hs₁ => ?_
  refine Ends.bind (query_same (Arena.apply_keeps right) s₁ hs₁) fun _ s₂ hs₂ => ?_
  exact Ends.throw hs₂

/-- Down to this depth types that are equal already are only compared. -/
def ComparesEquated (depth : Nat) : Prop :=
  ∀ left right (session : Session), session.arena.WellFormed → left.Fits session.arena →
    right.Fits session.arena → session.arena.Equates left right →
    (left.subst session.arena.solved).height ≤ depth →
    Ends (unifyWithin depth left right) session
      (fun _ s' => session.Alike s' ∧ (left.subst session.arena.solved).Known)
      fun _ s' => session.arena.Same s'.arena ∧
        (session.trace.Accepting → ¬ (left.subst session.arena.solved).Known)

theorem ComparesEquated.part (h : ComparesEquated depth) (hwf : session.arena.WellFormed)
    (hleft : left.Fits session.arena) (hright : right.Fits session.arena)
    (heq : session.arena.Equates left right)
    (hheight : (left.subst session.arena.solved).height ≤ depth) (s₁ : Session)
    (halike : session.Alike s₁) :
    Ends (unifyWithin depth left right) s₁
      (fun _ s' => session.Alike s' ∧ (left.subst session.arena.solved).Known)
      fun _ s' => session.arena.Same s'.arena ∧
        (session.trace.Accepting → ¬ (left.subst session.arena.solved).Known) := by
  have hsame := halike.same
  have hend := h left right s₁ hsame.wellFormed (hsame.fits hleft) (hsame.fits hright)
    (heq.grows (hsame.grows hwf)) (by rwa [hsame.solved_eq])
  rw [hsame.solved_eq] at hend
  refine hend.mono (fun _ _ h => ⟨halike.trans h.1, h.2⟩) fun _ _ h => ⟨hsame.trans h.1, ?_⟩
  exact fun haccepting => h.2 (halike.accepting haccepting)

theorem unifyWithin_equated (depth : Nat) : ComparesEquated depth := by
  induction depth with
  | zero =>
    intro left right session _ _ _ _ hheight
    have hpos := (left.subst session.arena.solved).height_pos
    omega
  | succ depth ih =>
    intro left right session hwf hleft hright heq hheight
    refine Ends.bind (query_alike (Arena.resolve_over hwf hleft.owned)) ?_
    rintro left' s₁ ⟨hresolved, halike₁⟩
    refine Ends.bind (query_alike (Arena.resolve_over halike₁.same.wellFormed
      (halike₁.same.fits hright).owned)) ?_
    rintro right' s₂ ⟨hresolved', halike₂⟩
    rw [halike₁.same.resolved_iff hwf] at hresolved'
    have halike₁₂ := halike₁.trans halike₂
    refine Ends.bind (((write_alike halike₂.same.wellFormed _ _).and (write_arena _ _ s₂)).mono
      (fun _ _ h => h.1.1) ?_) ?_
    · rintro _ s₃ ⟨⟨_, hfull⟩, harena⟩
      rw [harena]
      exact ⟨halike₁₂.same, fun haccepting => absurd (halike₁₂.accepting haccepting) hfull⟩
    intro _ s₃ halike₃
    have halike := halike₁₂.trans halike₃
    have heq' : session.arena.Equates left' right' :=
      (hresolved.equates hwf).symm.trans (heq.trans (hresolved'.equates hwf))
    have hform := (Arena.Equivalent.refl hwf).sameForm (fun v hv => (hresolved.unbound v hv).2)
      (fun v hv => (hresolved'.unbound v hv).2) heq'
    have hfits := hresolved.fits hleft
    have hfits' := hresolved'.fits hright
    rw [hresolved.subst_eq] at hheight ⊢
    cases hform with
    | var v w =>
      have hv := (hresolved.unbound v rfl).2
      have hvw : v = w :=
        (Arena.equates_var_iff hwf hv (hresolved'.unbound w rfl).2).mp heq'
      simp only [if_pos hvw]
      refine Ends.throw ⟨halike.same, fun _ => ?_⟩
      rw [Ty.subst_var, Arena.solved_unbound hv]
      exact Ty.not_known_var v
    | name n =>
      simp only [if_true]
      exact Ends.pure ⟨halike, Ty.known_name n⟩
    | @fn params params' result result' hlength =>
      simp only [ne_eq, hlength, not_true_eq_false, if_false]
      rw [unifyParts_eq (Resolver.unifyWithin Arena.resolve depth) hlength]
      have hequated := List.forall₂_iff_zip.mp (heq'.parts hlength)
      have hheights : ∀ part ∈ params ++ [result],
          (part.subst session.arena.solved).height ≤ depth := by
        intro part hpart
        have hlt := Ty.height_subst_lt_of_mem hpart session.arena.solved
        omega
      have hknown : ((Ty.fn params result).subst session.arena.solved).Known ↔
          ∀ pair ∈ (params ++ [result]).zip (params' ++ [result']),
            (pair.1.subst session.arena.solved).Known := by
        have hfst := List.map_fst_zip (Nat.le_of_eq hequated.1)
        rw [Ty.subst_fn, Ty.known_fn, ← List.map_singleton, ← List.map_append,
          List.forall_mem_map]
        nth_rewrite 1 [← hfst]
        rw [List.forall_mem_map]
      refine (Ends.forM_check _ (fun pair hpair s (hs : session.Alike s) =>
        ih.part hwf (hfits.part (List.of_mem_zip hpair).1) (hfits'.part (List.of_mem_zip hpair).2)
          (hequated.2 hpair) (hheights _ (List.of_mem_zip hpair).1) s hs) s₃ halike).mono ?_ ?_
      · exact fun _ s' h => ⟨h.1, hknown.mpr h.2⟩
      · rintro failure s' ⟨pair, hpair, hsame, hunknown⟩
        exact ⟨hsame, fun haccepting hall => hunknown haccepting (hknown.mp hall pair hpair)⟩
    | unresolvable =>
      refine (refuse_same halike.same.wellFormed _).mono (fun _ _ h => h) fun _ _ h => ?_
      exact ⟨halike.same.trans h, fun _ => Ty.not_known_unresolvable⟩
    | absent => cases hfits.nilFree

theorem unify_equated (hwf : session.arena.WellFormed) (hleft : left.Fits session.arena)
    (hright : right.Fits session.arena) (heq : session.arena.Equates left right) :
    Ends (unify left right) session
      (fun _ s' => session.Alike s' ∧ (left.subst session.arena.solved).Known)
      fun _ s' => session.arena.Same s'.arena ∧
        (session.trace.Accepting → ¬ (left.subst session.arena.solved).Known) :=
  unifyWithin_equated _ left right session hwf hleft hright heq
    (hwf.height_subst_solved_le List.mem_cons_self hleft.owned)

end Unifier

/-- Unifying the types in this session is a comparison of one type with itself. It succeeds
exactly if that type is known, provided that the trace takes what is written to it. However it
ends, it binds no variable and applying gives what it gave before. -/
structure Session.Compares (session : Session) (left right value : Ty) : Prop where
  succeeds_iff : session.trace.Accepting →
    ((∃ session', Unifier.unify left right session = .ok () session') ↔ value.Known)
  unbound : ∀ v, session.arena.lookup v = .ok none →
    ((Unifier.unify left right).leaves session).arena.lookup v = .ok none
  applies_iff : ∀ ty applied,
    ((Unifier.unify left right).leaves session).arena.Applies ty applied ↔
    session.arena.Applies ty applied

theorem Session.compares_of_equated {session : Session} {left right : Ty}
    (hwf : session.arena.WellFormed) (hleft : left.Fits session.arena)
    (hright : right.Fits session.arena) (heq : session.arena.Equates left right) :
    session.Compares left right (left.subst session.arena.solved) := by
  have hends := Unifier.unify_equated hwf hleft hright heq
  have hsame : session.arena.Same ((Unifier.unify left right).leaves session).arena :=
    Unifier.leaves_of_ends (hends.mono (fun _ _ h => h.1.same) fun _ _ h => h.1)
  refine ⟨fun haccepting => ?_, fun v hv => ?_, fun ty applied => hsame.applies_iff hwf⟩
  · constructor
    · rintro ⟨session', hok⟩
      exact (hends.good_of_eq hok).2
    · intro hknown
      obtain ⟨_, session', hok, _⟩ :=
        (hends.mono (fun _ _ h => h) fun _ _ h => h.2 haccepting hknown).exists_ok
      exact ⟨session', hok⟩
  · obtain ⟨howns, hentry⟩ := Arena.owns_of_lookup hv
    rw [Arena.lookup_of_owns (hsame.owns_iff.mpr howns), (hsame.entry_eq_none_iff hwf).mpr hentry]

/-- Unifying types that are equal already succeeds exactly if no variable and no mark is left in
them, and whether it succeeds or fails it binds nothing and leaves what applying gives. So, after
types have been unified, unifying them again succeeds exactly if their common type is known in
full. -/
theorem equal_types_unify_iff_known {session : Session} {left right : Ty}
    (hwf : session.arena.WellFormed) (hleft : left.Over session.arena)
    (hright : right.Over session.arena) (hleftNil : left.nilFree = true)
    (hrightNil : right.nilFree = true) :
    (∀ value, session.arena.Applies left value → session.arena.Applies right value →
      session.Compares left right value) ∧
    ∀ session', Unifier.unify left right session = .ok () session' →
      (session.trace.Accepting → session'.trace.Accepting) ∧
      ∃ value, session'.arena.Applies left value ∧ session'.arena.Applies right value ∧
        session'.Compares left right value := by
  constructor
  · intro value happlies happlies'
    obtain ⟨_, rfl⟩ := (Arena.applies_iff hwf).mp happlies
    obtain ⟨_, heq⟩ := (Arena.applies_iff hwf).mp happlies'
    exact Session.compares_of_equated hwf ⟨hleft, hleftNil⟩ ⟨hright, hrightNil⟩
      ((Arena.equates_iff hwf).mpr heq)
  · intro session' hok
    obtain ⟨hgrows, hiff⟩ := (Unifier.unify_ends hwf left right).good_of_eq hok
    have hwf' := hgrows.wellFormed
    have hequates : session'.arena.Equates left right := fun s hs => ((hiff s).mp hs).2
    have hover := hgrows.owned hleft
    have hover' := hgrows.owned hright
    refine ⟨(Unifier.unify_rejects hwf hleft hright hleftNil hrightNil).good_of_eq hok, _, ?_, ?_,
      Session.compares_of_equated hwf' ⟨hover, hleftNil⟩ ⟨hover', hrightNil⟩ hequates⟩
    · exact (Arena.applies_iff hwf').mpr ⟨hover, rfl⟩
    · exact (Arena.applies_iff hwf').mpr ⟨hover', (Arena.equates_iff hwf').mp hequates⟩

/-- `(?0) -> b` and `(c) -> b` can be unified twice, because `(c) -> b` is known. `?1` and `?2`
can not: the second time they are one and the same variable. -/
theorem equal_types_unify_iff_known_at_variables :
    let b : Ty := .name ⟨[98]⟩
    let left : Ty := .fn [.var ⟨0⟩] b
    let right : Ty := .fn [.name ⟨[99]⟩] b
    let session : Session := ⟨Arena.empty.grow 3, Trace.off⟩
    session.arena.WellFormed ∧
      (∃ session' session'', Unifier.unify left right session = .ok () session' ∧
        Unifier.unify left right session' = .ok () session'') ∧
      ∃ session', Unifier.unify (.var ⟨1⟩) (.var ⟨2⟩) session = .ok () session' ∧
        ¬ ∃ session'', Unifier.unify (.var ⟨1⟩) (.var ⟨2⟩) session' = .ok () session'' := by
  intro b left right session
  have hwf : session.arena.WellFormed := Arena.wellFormed_empty.grow 3
  let bound : Session := ⟨⟨#[some (.name ⟨[99]⟩), none, none]⟩, Trace.off⟩
  let linked : Session := ⟨⟨#[none, some (.var ⟨2⟩), none]⟩, Trace.off⟩
  have hbound : Unifier.unify left right session = .ok () bound := by rfl
  have hlinked : Unifier.unify (.var ⟨1⟩) (.var ⟨2⟩) session = .ok () linked := by rfl
  have hfirst := equal_types_unify_iff_known hwf (show left.Over session.arena by decide)
    (show right.Over session.arena by decide) rfl rfl
  have hsecond := equal_types_unify_iff_known hwf
    (show (Ty.var ⟨1⟩).Over session.arena by decide)
    (show (Ty.var ⟨2⟩).Over session.arena by decide) rfl rfl
  obtain ⟨haccepting, value, happlies, _, hcompares⟩ := hfirst.2 bound hbound
  obtain ⟨haccepting', value', happlies', _, hcompares'⟩ := hsecond.2 linked hlinked
  refine ⟨hwf, ?_, linked, hlinked, ?_⟩
  · have hvalue : value = right := happlies.unique ⟨_, rfl⟩
    have hknown : value.Known := by
      rw [hvalue, Ty.known_fn, List.forall_mem_append, List.forall_mem_singleton,
        List.forall_mem_singleton]
      exact ⟨Ty.known_name _, Ty.known_name _⟩
    obtain ⟨again, hagain⟩ := (hcompares.succeeds_iff (haccepting Trace.off_accepting)).mpr hknown
    exact ⟨bound, again, hbound, hagain⟩
  · have hvalue : value' = .var ⟨2⟩ := happlies'.unique ⟨_, rfl⟩
    rw [hcompares'.succeeds_iff (haccepting' Trace.off_accepting), hvalue]
    exact Ty.not_known_var _

end Typeflow
