import Typeflow.Proofs.Arena.Closed

/-!
Unification against closed types. Two closed types are only compared: they unify if they are equal
and determined. A variable that meets a closed type is bound to it if it is unbound, and stands
for its own type otherwise.
-/

namespace Typeflow

/-- How a comparison of types fails. -/
def Refusal (failure : Failure) : Prop :=
  ∃ error : InferenceError,
    failure = .error error ∧ (error.kind = .mismatch ∨ error.kind = .arity)

def Failure.Unmarked (failure : Failure) : Prop :=
  ∀ left right, failure = .error (.mismatch left right) →
    left.mentionsUnresolvable = false ∧ right.mentionsUnresolvable = false

namespace Ty

/-- A closed type in which the mark of an undetermined type does not stand. -/
def Ground (ty : Ty) : Prop := ty.Closed ∧ ty.mentionsUnresolvable = false

instance (ty : Ty) : Decidable ty.Ground := inferInstanceAs (Decidable (_ ∧ _))

theorem ground_fn {params : List Ty} {result : Ty} :
    (Ty.fn params result).Ground ↔ (∀ p ∈ params, p.Ground) ∧ result.Ground := by
  unfold Ground
  rw [closed_fn, mentionsUnresolvable_fn]
  constructor
  · rintro ⟨⟨hp, hr⟩, hp', hr'⟩
    exact ⟨fun p h => ⟨hp p h, hp' p h⟩, hr, hr'⟩
  · rintro ⟨hp, hr, hr'⟩
    exact ⟨⟨fun p h => (hp p h).1, hr⟩, fun p h => (hp p h).2, hr'⟩

/-- The types are the same, and the mark does not stand in them. -/
def Agree (left right : Ty) : Prop := left = right ∧ left.mentionsUnresolvable = false

theorem forall_zip_agree {ps qs : List Ty} (hlength : ps.length = qs.length) :
    (∀ pair ∈ ps.zip qs, Agree pair.1 pair.2) ↔
      ps = qs ∧ ∀ p ∈ ps, p.mentionsUnresolvable = false := by
  induction ps generalizing qs with
  | nil =>
    cases qs with
    | nil => simp
    | cons q qs => simp at hlength
  | cons p ps ih =>
    cases qs with
    | nil => simp at hlength
    | cons q qs =>
      rw [List.zip_cons_cons, List.forall_mem_cons, List.forall_mem_cons,
        ih (by simpa using hlength), List.cons.injEq]
      unfold Agree
      constructor
      · rintro ⟨⟨hpq, hp⟩, heq, hps⟩
        exact ⟨⟨hpq, heq⟩, hp, hps⟩
      · rintro ⟨⟨hpq, heq⟩, hp, hps⟩
        exact ⟨⟨hpq, hp⟩, heq, hps⟩

theorem agree_fn {ps qs : List Ty} {r s : Ty} (hlength : ps.length = qs.length) :
    Agree (.fn ps r) (.fn qs s) ↔ (∀ pair ∈ ps.zip qs, Agree pair.1 pair.2) ∧ Agree r s := by
  rw [forall_zip_agree hlength]
  unfold Agree
  rw [mentionsUnresolvable_fn, Ty.fn.injEq]
  constructor
  · rintro ⟨⟨hparams, hresult⟩, hps, hr⟩
    exact ⟨⟨hparams, hps⟩, hresult, hr⟩
  · rintro ⟨⟨hparams, hps⟩, hresult, hr⟩
    exact ⟨⟨hparams, hresult⟩, hps, hr⟩

theorem Agree.symm {left right : Ty} (h : Agree left right) : Agree right left :=
  ⟨h.1.symm, h.1 ▸ h.2⟩

/-- How a comparison of two closed types fails. The mark is not reported unless it stands in one
of them. -/
structure Differ (left right : Ty) (failure : Failure) : Prop where
  refusal : Refusal failure
  not_agree : ¬ Agree left right
  unmarked : left.mentionsUnresolvable = false → right.mentionsUnresolvable = false →
    failure.Unmarked

theorem Differ.symm {left right : Ty} {failure : Failure} (h : Differ left right failure) :
    Differ right left failure :=
  ⟨h.refusal, fun hagree => h.not_agree hagree.symm, fun hr hl => h.unmarked hl hr⟩

theorem Differ.ne {left right : Ty} {failure : Failure} (h : Differ left right failure)
    (hleft : left.mentionsUnresolvable = false) : left ≠ right :=
  fun heq => h.not_agree ⟨heq, hleft⟩

theorem Differ.fn {ps qs : List Ty} {r s p q : Ty} {failure : Failure} (h : Differ p q failure)
    (hlength : ps.length = qs.length) (hpart : (p, q) ∈ ps.zip qs ∨ (p, q) = (r, s)) :
    Differ (.fn ps r) (.fn qs s) failure := by
  refine ⟨h.refusal, fun hagree => h.not_agree ?_, fun hleft hright => ?_⟩
  · obtain ⟨hparams, hresults⟩ := (agree_fn hlength).mp hagree
    rcases hpart with hpair | heq
    · exact hparams _ hpair
    · cases heq
      exact hresults
  · obtain ⟨hps, hr⟩ := mentionsUnresolvable_fn.mp hleft
    obtain ⟨hqs, hs⟩ := mentionsUnresolvable_fn.mp hright
    rcases hpart with hpair | heq
    · obtain ⟨hp, hq⟩ := List.of_mem_zip hpair
      exact h.unmarked (hps p hp) (hqs q hq)
    · cases heq
      exact h.unmarked hr hs

end Ty

namespace Unifier

variable {session : Session} {arena : Arena} {v : TypeVar} {left right ty : Ty} {depth : Nat}

theorem refuse_closed {reason : Ty → Ty → InferenceError} {good : Unit → Session → Prop}
    (hs : session.At arena) (hl : left.Closed) (hr : right.Closed) :
    Ends (refuse reason left right) session good
      fun failure s' => s'.At arena ∧ failure = .error (reason left right) := by
  refine Ends.bind (query_at hs (Arena.apply_closed arena hl)) ?_
  rintro _ s₁ ⟨rfl, hs₁⟩
  refine Ends.bind (query_at hs₁ (Arena.apply_closed arena hr)) ?_
  rintro _ s₂ ⟨rfl, hs₂⟩
  exact Ends.throw ⟨hs₂, rfl⟩

/-- Closed types unify if and only if they are equal and the mark does not stand in them. -/
theorem unifyWithin_closed (hs : session.At arena) (hl : left.Closed) (hr : right.Closed)
    (hdepth : left.height ≤ depth ∨ right.height ≤ depth) :
    Ends (unifyWithin depth left right) session
      (fun _ s' => s'.At arena ∧ Ty.Agree left right)
      fun failure s' => s'.At arena ∧ Ty.Differ left right failure := by
  induction depth generalizing left right session with
  | zero =>
    have hleft := left.height_pos
    have hright := right.height_pos
    omega
  | succ depth ih =>
    refine Ends.bind (query_at hs (Arena.resolve_of_ne_var arena hl.ne_var)) ?_
    rintro _ s₁ ⟨rfl, hs₁⟩
    refine Ends.bind (query_at hs₁ (Arena.resolve_of_ne_var arena hr.ne_var)) ?_
    rintro _ s₂ ⟨rfl, hs₂⟩
    refine Ends.bind (write_at hs₂ _ _) ?_
    intro _ s₃ hs₃
    have hmismatch (hne : ¬ Ty.Agree left right) :
        Ends (refuse .mismatch left right) s₃ (fun _ s' => s'.At arena ∧ Ty.Agree left right)
          fun failure s' => s'.At arena ∧ Ty.Differ left right failure := by
      refine (refuse_closed hs₃ hl hr).mono (fun _ _ h => h) ?_
      rintro failure s' ⟨hs', rfl⟩
      refine ⟨hs', ⟨_, rfl, Or.inl rfl⟩, hne, fun hleft hright l r h => ?_⟩
      cases h
      exact ⟨hleft, hright⟩
    cases left with
    | var w => exact absurd hl (Ty.not_closed_var w)
    | absent => exact absurd hl Ty.not_closed_absent
    | name m =>
      cases right with
      | var w => exact absurd hr (Ty.not_closed_var w)
      | absent => exact absurd hr Ty.not_closed_absent
      | name n =>
        by_cases hmn : m = n
        · subst hmn
          simp only [if_true]
          exact Ends.pure ⟨hs₃, rfl, rfl⟩
        · simp only [if_neg hmn]
          exact hmismatch (by simp [Ty.Agree, hmn])
      | _ => exact hmismatch (by simp [Ty.Agree])
    | unresolvable =>
      cases right with
      | var w => exact absurd hr (Ty.not_closed_var w)
      | absent => exact absurd hr Ty.not_closed_absent
      | _ => exact hmismatch (by simp [Ty.Agree, Ty.mentionsUnresolvable])
    | fn ps r =>
      cases right with
      | var w => exact absurd hr (Ty.not_closed_var w)
      | absent => exact absurd hr Ty.not_closed_absent
      | fn qs s =>
        by_cases hlength : ps.length = qs.length
        · obtain ⟨hps, hr₁⟩ := Ty.closed_fn.mp hl
          obtain ⟨hqs, hr₂⟩ := Ty.closed_fn.mp hr
          have hpairs : ∀ pair ∈ ps.zip qs, pair.1.height ≤ depth ∨ pair.2.height ≤ depth := by
            intro pair hpair
            have hmem := List.of_mem_zip hpair
            exact hdepth.imp (fun h => (Ty.height_fn_le_iff.mp h).1 _ hmem.1)
              fun h => (Ty.height_fn_le_iff.mp h).1 _ hmem.2
          have hresult : r.height ≤ depth ∨ s.height ≤ depth :=
            hdepth.imp (fun h => (Ty.height_fn_le_iff.mp h).2)
              fun h => (Ty.height_fn_le_iff.mp h).2
          simp only [ne_eq, hlength, not_true_eq_false, if_false]
          have hparams := Ends.forM_check (ps.zip qs)
            (fun pair hpair s (hs : s.At arena) =>
              ih hs (hps _ (List.of_mem_zip hpair).1) (hqs _ (List.of_mem_zip hpair).2)
                (hpairs pair hpair)) s₃ hs₃
          refine Ends.bind (hparams.mono (fun _ _ h => h) ?_) ?_
          · rintro failure s' ⟨pair, hpair, hs', hdiffer⟩
            exact ⟨hs', hdiffer.fn hlength (Or.inl hpair)⟩
          · rintro _ s₄ ⟨hs₄, hall⟩
            refine (ih hs₄ hr₁ hr₂ hresult).mono ?_ ?_
            · exact fun _ _ h => ⟨h.1, (Ty.agree_fn hlength).mpr ⟨hall, h.2⟩⟩
            · exact fun _ _ h => ⟨h.1, h.2.fn hlength (Or.inr rfl)⟩
        · simp only [ne_eq, hlength, not_false_eq_true, if_true]
          refine (refuse_closed hs₃ hl hr).mono (fun _ _ h => h) ?_
          rintro failure s' ⟨hs', rfl⟩
          refine ⟨hs', ⟨_, rfl, Or.inr rfl⟩, fun hagree => ?_, fun _ _ l r h => by cases h⟩
          injection hagree.1 with heq _
          exact hlength (by rw [heq])
      | _ => exact hmismatch (by simp [Ty.Agree])

theorem lookup_at {bad : Failure → Session → Prop} (hs : session.At arena)
    (hv : arena.Owns v) :
    Ends (lookup v) session (fun entry s' => arena.entry v = entry ∧ s'.At arena) bad := by
  obtain ⟨rfl, haccepting⟩ := hs
  have hlookup : lookup v session = .ok (session.arena.entry v) session := by
    unfold lookup
    rw [Arena.lookup_of_owns hv]
  exact Ends.of_eq_ok hlookup ⟨rfl, rfl, haccepting⟩

theorem substitute_unbound {bad : Failure → Session → Prop} (hs : session.At arena)
    (hv : arena.Owns v) (hentry : arena.entry v = none) (ty : Ty) :
    Ends (substitute v ty) session (fun _ s' => s'.At (arena.assign v ty)) bad := by
  refine Ends.bind (lookup_at hs hv) ?_
  rintro _ s₁ ⟨rfl, hs₁⟩
  simp only [hentry]
  refine Ends.bind (write_at hs₁ _ _) ?_
  rintro _ s₂ ⟨rfl, haccepting⟩
  exact Ends.of_eq_ok rfl ⟨rfl, haccepting⟩

theorem bindVar_closed {bad : Failure → Session → Prop} (hs : session.At arena)
    (hv : arena.Owns v) (hentry : arena.entry v = none) (hty : ty.Closed) :
    Ends (bindVar v ty) session (fun _ s' => s'.At (arena.assign v ty)) bad := by
  have hoccurs : Ends (query (Arena.occurs v ty)) session
      (fun answer s' => false = answer ∧ s'.At arena) bad :=
    query_at hs (Arena.occurs_closed arena v hty)
  cases ty with
  | var w => exact absurd hty (Ty.not_closed_var w)
  | _ =>
    refine Ends.bind hoccurs ?_
    rintro _ s₁ ⟨rfl, hs₁⟩
    exact substitute_unbound hs₁ hv hentry _

/-- An unbound variable that meets a closed type is bound to it, on whichever side it stands. -/
theorem unifyWithin_unbound {bad : Failure → Session → Prop} (hs : session.At arena)
    (hv : arena.Owns v) (hentry : arena.entry v = none) (hty : ty.Closed) (depth : Nat) :
    Ends (unifyWithin (depth + 1) (.var v) ty) session
      (fun _ s' => s'.At (arena.assign v ty)) bad ∧
    Ends (unifyWithin (depth + 1) ty (.var v)) session
      (fun _ s' => s'.At (arena.assign v ty)) bad := by
  have hvar := Arena.resolve_unbound hv hentry
  have hclosed := Arena.resolve_of_ne_var arena hty.ne_var
  constructor
  · refine Ends.bind (query_at hs hvar) ?_
    rintro _ s₁ ⟨rfl, hs₁⟩
    refine Ends.bind (query_at hs₁ hclosed) ?_
    rintro _ s₂ ⟨rfl, hs₂⟩
    refine Ends.bind (write_at hs₂ _ _) ?_
    intro _ s₃ hs₃
    have hbind : Ends (bindVar v ty) s₃ (fun _ s' => s'.At (arena.assign v ty)) bad :=
      bindVar_closed hs₃ hv hentry hty
    cases ty with
    | var w => exact absurd hty (Ty.not_closed_var w)
    | _ => exact hbind
  · refine Ends.bind (query_at hs hclosed) ?_
    rintro _ s₁ ⟨rfl, hs₁⟩
    refine Ends.bind (query_at hs₁ hvar) ?_
    rintro _ s₂ ⟨rfl, hs₂⟩
    refine Ends.bind (write_at hs₂ _ _) ?_
    intro _ s₃ hs₃
    have hbind : Ends (bindVar v ty) s₃ (fun _ s' => s'.At (arena.assign v ty)) bad :=
      bindVar_closed hs₃ hv hentry hty
    cases ty with
    | var w => exact absurd hty (Ty.not_closed_var w)
    | _ => exact hbind

theorem unifyWithin_bound {known : Ty} (hs : session.At arena)
    (hentry : arena.entry v = some known) (hknown : known.Closed) (hty : ty.Closed)
    (hdepth : ty.height ≤ depth) :
    Ends (unifyWithin depth (.var v) ty) session
      (fun _ s' => s'.At arena ∧ Ty.Agree known ty)
      (fun failure s' => s'.At arena ∧ Ty.Differ known ty failure) ∧
    Ends (unifyWithin depth ty (.var v)) session
      (fun _ s' => s'.At arena ∧ Ty.Agree ty known)
      fun failure s' => s'.At arena ∧ Ty.Differ ty known failure := by
  obtain ⟨rfl, haccepting⟩ := hs
  have hvar := Arena.resolve_direct hentry hknown.ne_var
  have hself := Arena.resolve_of_ne_var session.arena hknown.ne_var
  have hother := Arena.resolve_of_ne_var session.arena hty.ne_var
  have hquery {t u : Ty} (h : Arena.resolve t session.arena = .ok u session.arena) :
      query (Arena.resolve t) session = .ok u session := by
    unfold query
    rw [h]
  have heq : unifyWithin depth (.var v) ty session = unifyWithin depth known ty session ∧
      unifyWithin depth ty (.var v) session = unifyWithin depth ty known session := by
    cases depth with
    | zero => exact ⟨rfl, rfl⟩
    | succ depth =>
      simp only [unifyWithin, Resolver.unifyWithin, Bind.bind, EStateM.bind, hquery hvar,
        hquery hself, hquery hother, and_self]
  constructor
  · exact Ends.congr heq.1 (unifyWithin_closed ⟨rfl, haccepting⟩ hknown hty (Or.inr hdepth))
  · exact Ends.congr heq.2 (unifyWithin_closed ⟨rfl, haccepting⟩ hty hknown (Or.inl hdepth))

end Unifier

end Typeflow
