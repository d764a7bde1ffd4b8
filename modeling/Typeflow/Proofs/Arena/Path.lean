import Typeflow.Proofs.Arena.WellFormed
import Typeflow.Proofs.Ends

/-!
Following entries and compressing the path. A path passes bound variables and ends in a type that
is not one. Pointing a variable of the path at its end leaves the meaning of the arena as it is:
the variable led there anyway, so no new way to reach a variable arises and every solution stays
one.
-/

namespace Typeflow.Arena

/-- The path from a type passes these bound variables and ends in that type. -/
inductive Follows (arena : Arena) : Ty → List TypeVar → Ty → Prop
  | stop {ty : Ty} : (∀ v, ty = .var v → arena.Owns v ∧ arena.entry v = none) →
      Follows arena ty [] ty
  | pass {v : TypeVar} {next target : Ty} {passed : List TypeVar} :
      arena.entry v = some next → Follows arena next passed target →
      Follows arena (.var v) (v :: passed) target

variable {arena : Arena} {ty target : Ty} {passed : List TypeVar}

theorem follows_of_follow {steps : Nat} (h : arena.follow steps ty = .ok (target, passed)) :
    arena.Follows ty passed target := by
  fun_induction follow arena steps ty generalizing target passed with
  | case1 => cases h
  | case2 _ v hlookup =>
    cases h
    refine .stop fun w hw => ?_
    cases hw
    exact owns_of_lookup hlookup
  | case3 => cases h
  | case4 => cases h
  | case5 v next hlookup _ _ _ hfollow ih =>
    cases h
    exact .pass (owns_of_lookup hlookup).2 (ih hfollow)
  | case6 _ ty hvar =>
    cases h
    exact .stop fun v hv => (hvar v hv).elim

namespace Follows

theorem subst_eq (h : arena.Follows ty passed target) {s : TypeVar → Ty}
    (hs : arena.Satisfies s) : ty.subst s = target.subst s := by
  induction h with
  | stop => rfl
  | pass hentry _ ih => rw [Ty.subst_var, hs _ _ hentry, ih]

theorem unbound (h : arena.Follows ty passed target) {v : TypeVar} (hv : target = .var v) :
    arena.Owns v ∧ arena.entry v = none := by
  induction h with
  | stop hstop => exact hstop v hv
  | pass _ _ ih => exact ih hv

/-- What leads to the start of a path leads to every variable of its end. -/
theorem reaches_target (h : arena.Follows ty passed target) {v w : TypeVar}
    (hentry : arena.entry v = some ty) (hw : w ∈ target.vars) :
    Relation.TransGen arena.Links v w := by
  induction h generalizing v with
  | stop => exact .single ⟨_, hentry, hw⟩
  | pass hnext _ ih => exact .head ⟨_, hentry, by simp⟩ (ih hnext hw)

theorem reaches_passed (h : arena.Follows ty passed target) {v w : TypeVar}
    (hentry : arena.entry v = some ty) (hw : w ∈ passed) :
    Relation.TransGen arena.Links v w := by
  induction h generalizing v with
  | stop => cases hw
  | pass hnext _ ih =>
    have hlink : arena.Links v _ := ⟨_, hentry, Ty.mem_vars_var.mpr rfl⟩
    rcases List.mem_cons.mp hw with rfl | hw
    · exact .single hlink
    · exact .head hlink (ih hnext hw)

theorem exists_entry (h : arena.Follows ty passed target) {v : TypeVar}
    (hentry : arena.entry v = some ty) : ∃ w, arena.entry w = some target := by
  induction h generalizing v with
  | stop => exact ⟨v, hentry⟩
  | pass hnext _ ih => exact ih hnext

/-- A path stays the same when a bound variable that is not on it is pointed elsewhere. -/
theorem assign (h : arena.Follows ty passed target) {v : TypeVar} {other old : Ty}
    (hv : v ∉ passed) (hold : arena.entry v = some old) (hother : other ≠ .absent) :
    (arena.assign v other).Follows ty passed target := by
  have howns := owns_of_entry hold
  induction h with
  | stop hstop =>
    refine .stop fun w hw => ?_
    obtain ⟨hwowns, hunbound⟩ := hstop w hw
    have hne : w ≠ v := by
      rintro rfl
      rw [hunbound] at hold
      cases hold
    rw [owns_assign, entry_assign howns hother, if_neg hne]
    exact ⟨hwowns, hunbound⟩
  | pass hnext _ ih =>
    obtain ⟨hne, hrest⟩ := List.ne_and_not_mem_of_not_mem_cons hv
    refine .pass ?_ (ih hrest)
    rw [entry_assign howns hother, if_neg (Ne.symm hne)]
    exact hnext

end Follows

/-- Pointing a bound variable at the end of its path does not change the meaning. -/
theorem same_assign (hwf : arena.WellFormed) {v : TypeVar} {next : Ty}
    (hentry : arena.entry v = some next) (hpath : arena.Follows next passed target) :
    arena.Same (arena.assign v target) := by
  obtain ⟨last, hlast⟩ := hpath.exists_entry hentry
  have howns := owns_of_entry hentry
  have hnil := hwf.nilFree last target hlast
  have hlinks : ∀ x y, (arena.assign v target).Links x y →
      Relation.TransGen arena.Links x y := by
    intro x y hlink
    rcases links_of_assign howns hnil hlink with hold | ⟨rfl, hy⟩
    · exact .single hold
    · exact hpath.reaches_target hentry hy
  have hwf' : (arena.assign v target).WellFormed :=
    hwf.assign howns (hwf.owned last target hlast) hnil fun w hcycle =>
      hwf.acyclic w (Relation.TransGen.closed hlinks w w hcycle)
  refine Same.of_satisfies hwf' (size_assign arena v target) ?_ ?_ ?_
  · exact fun w hw => entry_of_assign_eq_none howns hnil hw
  · intro w ty hty
    rw [entry_assign howns (Ty.ne_absent_of_nilFree hnil)] at hty
    split at hty
    · cases hty
      exact ⟨last, hlast⟩
    · exact ⟨w, hty⟩
  · intro w ty hty
    rw [entry_assign howns (Ty.ne_absent_of_nilFree hnil)] at hty
    split at hty
    · rename_i heq
      cases hty
      subst heq
      rw [hwf.solved_of_entry hentry]
      exact hpath.subst_eq hwf.satisfies_solved
    · exact hwf.solved_of_entry hty

theorem same_compress (hwf : arena.WellFormed) (h : arena.Follows ty passed target) :
    arena.Same (arena.compress passed target) := by
  induction passed generalizing arena ty with
  | nil => exact Same.refl hwf
  | cons v rest ih =>
    cases h with
    | pass hentry hpath =>
      cases rest with
      | nil => exact Same.refl hwf
      | cons w rest =>
        have hstep := same_assign hwf hentry hpath
        -- The rest of the path does not pass `v` again and survives its redirection.
        have hnot : v ∉ w :: rest := fun hmem =>
          hwf.acyclic v (hpath.reaches_passed hentry hmem)
        obtain ⟨last, hlast⟩ := hpath.exists_entry hentry
        have hpresent := Ty.ne_absent_of_nilFree (hwf.nilFree last target hlast)
        exact hstep.trans (ih hstep.wellFormed (hpath.assign hnot hentry hpresent))

/-- How the type at the end of a path is related to the type at its start. -/
structure Resolved (arena : Arena) (ty resolved : Ty) : Prop where
  subst_eq : ty.subst arena.solved = resolved.subst arena.solved
  unbound : ∀ v, resolved = .var v → arena.Owns v ∧ arena.entry v = none
  over_iff : resolved.Over arena ↔ ty.Over arena
  nilFree_eq : resolved.nilFree = ty.nilFree

theorem Follows.resolved (hwf : arena.WellFormed) (h : arena.Follows ty passed target) :
    arena.Resolved ty target := by
  refine ⟨h.subst_eq hwf.satisfies_solved, fun v hv => h.unbound hv, ?_, ?_⟩
  · cases h with
    | stop => exact Iff.rfl
    | pass hentry hpath =>
      obtain ⟨last, hlast⟩ := hpath.exists_entry hentry
      refine iff_of_true (hwf.owned last target hlast) fun w hw => ?_
      rw [Ty.mem_vars_var.mp hw]
      exact owns_of_entry hentry
  · cases h with
    | stop => rfl
    | pass hentry hpath =>
      obtain ⟨last, hlast⟩ := hpath.exists_entry hentry
      exact hwf.nilFree last target hlast

/-- Resolving keeps the meaning of the arena, also if it fails. -/
theorem resolve_ends (hwf : arena.WellFormed) (ty : Ty) :
    Ends (resolve ty) arena
      (fun resolved arena' => arena.Same arena' ∧ arena.Resolved ty resolved)
      fun _ arena' => arena.Same arena' := by
  cases hfollow : arena.follow arena.size ty with
  | error fault =>
    have hresolve : resolve ty arena = .error fault arena := by
      unfold resolve
      rw [hfollow]
    exact Ends.of_eq_error hresolve (Same.refl hwf)
  | ok found =>
    obtain ⟨target, passed⟩ := found
    have hresolve : resolve ty arena = .ok target (arena.compress passed target) := by
      unfold resolve
      rw [hfollow]
    have hpath := follows_of_follow hfollow
    exact Ends.of_eq_ok hresolve ⟨same_compress hwf hpath, hpath.resolved hwf⟩

/-- A path in a well-formed arena has an end. -/
theorem exists_follow (hwf : arena.WellFormed) (hty : ∀ v, ty = .var v → arena.Owns v) :
    ∃ found, arena.follow arena.size ty = .ok found := by
  obtain ⟨rank, hrank, hbound⟩ := hwf.exists_rank
  have hvar : ∀ steps v, arena.Owns v → rank v < steps →
      ∃ found, arena.follow steps (.var v) = .ok found := by
    intro steps
    induction steps with
    | zero => intro v _ hv; omega
    | succ steps ih =>
      intro v howns hv
      unfold follow
      rw [lookup_of_owns howns]
      cases hentry : arena.entry v with
      | none => exact ⟨_, rfl⟩
      | some next =>
        have hnext : ∃ found, arena.follow steps next = .ok found := by
          cases next with
          | var w =>
            have hlt := hrank v w ⟨_, hentry, by simp⟩
            exact ih w (hwf.owned v _ hentry w (by simp)) (by omega)
          | _ => exact ⟨_, follow_of_ne_var arena steps (by simp)⟩
        obtain ⟨found, hfound⟩ := hnext
        simp only [hfound]
        exact ⟨_, rfl⟩
  cases ty with
  | var v => exact hvar _ v (hty v rfl) (hbound v (hty v rfl))
  | _ => exact ⟨_, follow_of_ne_var arena _ (by simp)⟩

theorem resolve_total (hwf : arena.WellFormed) (hty : ∀ v, ty = .var v → arena.Owns v) :
    Ends (resolve ty) arena
      (fun resolved arena' => arena.Same arena' ∧ arena.Resolved ty resolved)
      fun _ _ => False := by
  obtain ⟨found, hfollow⟩ := exists_follow hwf hty
  have hresolve : resolve ty arena = .ok found.1 (arena.compress found.2 found.1) := by
    unfold resolve
    rw [hfollow]
  exact Ends.of_eq_ok hresolve ((resolve_ends hwf ty).good_of_eq hresolve)

theorem resolve_over (hwf : arena.WellFormed) (hover : ty.Over arena) :
    Ends (resolve ty) arena
      (fun resolved arena' => arena.Resolved ty resolved ∧ arena.Same arena')
      fun _ _ => False := by
  have hvar : ∀ v, ty = .var v → arena.Owns v := by
    rintro v rfl
    exact hover v (by simp)
  exact (resolve_total hwf hvar).mono (fun _ _ h => h.symm) fun _ _ h => h

end Typeflow.Arena
