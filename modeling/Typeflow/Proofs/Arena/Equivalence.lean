import Typeflow.Proofs.Arena.Answers

/-!
Equalities that arenas know. An arena equates two types if every solution of it makes them equal.
Arenas with the same solutions equate the same types, also where they have chosen different
variables to stand for the others. If types that are equated are resolved, in one arena or in two
such arenas, they have the same form, and the parts of function types are equated in turn. Adding
equations that have the same solutions to arenas that are equivalent keeps them so.
-/

namespace Typeflow

namespace Ty

/-- The types are built in the same way at the outside. -/
inductive SameForm : Ty → Ty → Prop
  | name (n : Identifier) : SameForm (.name n) (.name n)
  | var (v w : TypeVar) : SameForm (.var v) (.var w)
  | fn {params params' : List Ty} {result result' : Ty} : params.length = params'.length →
      SameForm (.fn params result) (.fn params' result')
  | unresolvable : SameForm .unresolvable .unresolvable
  | absent : SameForm .absent .absent

theorem sameForm_of_subst_eq {left right : Ty} {s : TypeVar → Ty} (hleft : ∀ v, left ≠ .var v)
    (hright : ∀ v, right ≠ .var v) (h : left.subst s = right.subst s) : left.SameForm right := by
  cases left with
  | var v => exact absurd rfl (hleft v)
  | fn params result =>
    cases right with
    | fn params' result' =>
      rw [subst_fn, subst_fn, Ty.fn.injEq] at h
      have hlengths := congrArg List.length h.1
      rw [List.length_map, List.length_map] at hlengths
      exact .fn hlengths
    | var w => exact absurd rfl (hright w)
    | _ => simp at h
  | name n =>
    cases right with
    | name m =>
      obtain rfl := Ty.name.inj h
      exact .name n
    | var w => exact absurd rfl (hright w)
    | _ => simp at h
  | unresolvable =>
    cases right with
    | unresolvable => exact .unresolvable
    | var w => exact absurd rfl (hright w)
    | _ => simp at h
  | absent =>
    cases right with
    | absent => exact .absent
    | var w => exact absurd rfl (hright w)
    | _ => simp at h

theorem subst_ne_var {ty : Ty} {s : TypeVar → Ty} (h : ∀ v, ty ≠ .var v) (w : TypeVar) :
    ty.subst s ≠ .var w := by
  cases ty with
  | var v => exact absurd rfl (h v)
  | _ => simp

/-- The type can be handed to the engine: its variables are those of the arena and no place is
empty. -/
structure Fits (ty : Ty) (arena : Arena) : Prop where
  owned : ty.Over arena
  nilFree : ty.nilFree = true

theorem Fits.part {arena : Arena} {params : List Ty} {result part : Ty}
    (h : (Ty.fn params result).Fits arena) (hpart : part ∈ params ++ [result]) :
    part.Fits arena := by
  obtain ⟨hparams, hresult⟩ := nilFree_fn.mp h.nilFree
  rcases List.mem_append.mp hpart with hp | hr
  · exact ⟨fun v hv => h.owned v (mem_vars_fn.mpr (Or.inl ⟨part, hp, hv⟩)), hparams part hp⟩
  · obtain rfl := List.mem_singleton.mp hr
    exact ⟨fun v hv => h.owned v (mem_vars_fn.mpr (Or.inr hv)), hresult⟩

end Ty

namespace Arena

variable {arena arena' arena'' : Arena} {ty left right left' right' : Ty} {v w : TypeVar}

theorem Same.fits (h : arena.Same arena') (hty : ty.Fits arena) : ty.Fits arena' :=
  ⟨h.over_iff.mpr hty.owned, hty.nilFree⟩

theorem Grows.fits (h : arena.Grows arena') (hty : ty.Fits arena) : ty.Fits arena' :=
  ⟨h.owned hty.owned, hty.nilFree⟩

theorem Resolved.fits {resolved : Ty} (h : arena.Resolved ty resolved) (hty : ty.Fits arena) :
    resolved.Fits arena :=
  ⟨h.over_iff.mpr hty.owned, h.nilFree_eq.trans hty.nilFree⟩

/-- Every solution of the arena makes the types equal. -/
def Equates (arena : Arena) (left right : Ty) : Prop :=
  ∀ s, arena.Satisfies s → left.subst s = right.subst s

theorem equates_iff (hwf : arena.WellFormed) :
    arena.Equates left right ↔ left.subst arena.solved = right.subst arena.solved := by
  constructor
  · exact fun h => h _ hwf.satisfies_solved
  · intro heq s hs
    rw [← hwf.subst_solved hs left, heq, hwf.subst_solved hs]

namespace Equates

theorem refl (ty : Ty) : arena.Equates ty ty := fun _ _ => rfl

theorem symm (h : arena.Equates left right) : arena.Equates right left :=
  fun s hs => (h s hs).symm

theorem trans (h : arena.Equates left right) (h' : arena.Equates right ty) :
    arena.Equates left ty :=
  fun s hs => (h s hs).trans (h' s hs)

theorem grows (h : arena.Equates left right) (hgrows : arena.Grows arena') :
    arena'.Equates left right :=
  fun s hs => h s (hgrows.satisfies s hs)

theorem parts {params params' : List Ty} {result result' : Ty}
    (h : arena.Equates (.fn params result) (.fn params' result'))
    (hlength : params.length = params'.length) :
    List.Forall₂ arena.Equates (params ++ [result]) (params' ++ [result']) := by
  have hparts : ∀ s, arena.Satisfies s →
      (∀ pair ∈ params.zip params', pair.1.subst s = pair.2.subst s) ∧
        result.subst s = result'.subst s :=
    fun s hs => (Ty.subst_fn_eq_iff hlength).mp (h s hs)
  refine List.forall₂_iff_zip.mpr ⟨by simp [hlength], fun {p q} hpair => ?_⟩
  rw [List.zip_append hlength, List.mem_append] at hpair
  intro s hs
  rcases hpair with hpair | hlast
  · exact (hparts s hs).1 (p, q) hpair
  · have heq : (p, q) = (result, result') := by simpa using hlast
    cases heq
    exact (hparts s hs).2

end Equates

theorem Resolved.equates (hwf : arena.WellFormed) {resolved : Ty}
    (h : arena.Resolved ty resolved) :
    arena.Equates ty resolved :=
  (equates_iff hwf).mpr h.subst_eq

theorem equates_var_iff (hwf : arena.WellFormed) (hv : arena.entry v = none)
    (hw : arena.entry w = none) : arena.Equates (.var v) (.var w) ↔ v = w := by
  rw [equates_iff hwf, Ty.subst_var, Ty.subst_var, solved_unbound hv, solved_unbound hw,
    Ty.var.injEq]

/-- The arenas have the same variables and the same solutions. -/
structure Equivalent (arena arena' : Arena) : Prop where
  wellFormed : arena.WellFormed
  wellFormed' : arena'.WellFormed
  size_eq : arena'.size = arena.size
  satisfies_iff : ∀ s, arena'.Satisfies s ↔ arena.Satisfies s

namespace Equivalent

theorem refl (h : arena.WellFormed) : arena.Equivalent arena := ⟨h, h, rfl, fun _ => Iff.rfl⟩

theorem symm (h : arena.Equivalent arena') : arena'.Equivalent arena :=
  ⟨h.wellFormed', h.wellFormed, h.size_eq.symm, fun s => (h.satisfies_iff s).symm⟩

theorem trans (h : arena.Equivalent arena') (h' : arena'.Equivalent arena'') :
    arena.Equivalent arena'' :=
  ⟨h.wellFormed, h'.wellFormed', h'.size_eq.trans h.size_eq,
    fun s => (h'.satisfies_iff s).trans (h.satisfies_iff s)⟩

theorem of_same (hwf : arena.WellFormed) (h : arena.Same arena') : arena.Equivalent arena' :=
  ⟨hwf, h.wellFormed, h.size_eq, fun _ => h.satisfies_iff hwf⟩

theorem over_iff (h : arena.Equivalent arena') : ty.Over arena' ↔ ty.Over arena := by
  unfold Ty.Over Owns
  rw [h.size_eq]

theorem fits (h : arena.Equivalent arena') (hty : ty.Fits arena) : ty.Fits arena' :=
  ⟨h.over_iff.mpr hty.owned, hty.nilFree⟩

theorem equates_iff (h : arena.Equivalent arena') :
    arena'.Equates left right ↔ arena.Equates left right :=
  forall_congr' fun s => imp_congr_left (h.satisfies_iff s)

theorem sameForm (h : arena.Equivalent arena')
    (hleft : ∀ v, left = .var v → arena.entry v = none)
    (hright : ∀ v, right = .var v → arena'.entry v = none) (heq : arena.Equates left right) :
    left.SameForm right := by
  have hsolved := (Arena.equates_iff h.wellFormed).mp heq
  have hsolved' := (Arena.equates_iff h.wellFormed').mp (h.equates_iff.mpr heq)
  by_cases hvar : ∃ v, left = .var v
  · obtain ⟨v, rfl⟩ := hvar
    rw [Ty.subst_var, solved_unbound (hleft v rfl)] at hsolved
    by_cases hvar' : ∃ w, right = .var w
    · obtain ⟨w, rfl⟩ := hvar'
      exact .var v w
    · exact absurd hsolved.symm (Ty.subst_ne_var (fun w hw => hvar' ⟨w, hw⟩) v)
  · by_cases hvar' : ∃ w, right = .var w
    · obtain ⟨w, rfl⟩ := hvar'
      rw [Ty.subst_var, solved_unbound (hright w rfl)] at hsolved'
      exact absurd hsolved' (Ty.subst_ne_var (fun v hv => hvar ⟨v, hv⟩) w)
    · exact Ty.sameForm_of_subst_eq (fun v hv => hvar ⟨v, hv⟩) (fun w hw => hvar' ⟨w, hw⟩) hsolved

/-- Where unbound variables of the two arenas are equated, what holds of the occurrence of one
holds of the other. -/
theorem mem_solved (h : arena.Equivalent arena') (hw : arena'.entry w = none)
    (hvar : arena.Equates (.var v) (.var w)) (hty : arena.Equates left right)
    (hmem : v ∈ (left.subst arena.solved).vars) : w ∈ (right.subst arena'.solved).vars := by
  have hsolution : arena.Satisfies arena'.solved :=
    (h.satisfies_iff _).mp h.wellFormed'.satisfies_solved
  have hvalue : arena'.solved v = .var w := by
    rw [← solved_unbound hw]
    exact hvar _ hsolution
  rw [← hty _ hsolution, ← h.wellFormed.subst_solved hsolution left]
  refine Ty.mem_vars_subst.mpr ⟨v, hmem, ?_⟩
  rw [hvalue]
  exact Ty.mem_vars_var.mpr rfl

theorem mem_solved_iff (h : arena.Equivalent arena') (hv : arena.entry v = none)
    (hw : arena'.entry w = none) (hvar : arena.Equates (.var v) (.var w))
    (hty : arena.Equates left right) :
    v ∈ (left.subst arena.solved).vars ↔ w ∈ (right.subst arena'.solved).vars := by
  refine ⟨h.mem_solved hw hvar hty, h.symm.mem_solved hv ?_ ?_⟩
  · exact h.equates_iff.mpr hvar.symm
  · exact h.equates_iff.mpr hty.symm

/-- Arenas stay equivalent when equations with the same solutions are added to them. -/
theorem unified {after after' : Arena} (h : arena.Equivalent arena')
    (hleft : arena.Equates left left') (hright : arena.Equates right right')
    (hunified : arena.Unified left right after) (hunified' : arena'.Unified left' right' after')
    (hsize : after.size = arena.size) (hsize' : after'.size = arena'.size) :
    after.Equivalent after' := by
  refine ⟨hunified.grows.wellFormed, hunified'.grows.wellFormed, ?_, fun s => ?_⟩
  · rw [hsize, hsize', h.size_eq]
  · rw [hunified.satisfies_iff, hunified'.satisfies_iff, h.satisfies_iff]
    refine and_congr_right fun hs => ?_
    rw [hleft s hs, hright s hs]

end Equivalent

/-- Applying the two arenas makes the same types equal. -/
def KnowsSame (arena arena' : Arena) : Prop :=
  ∀ left right, (∃ value, arena.Applies left value ∧ arena.Applies right value) ↔
    ∃ value, arena'.Applies left value ∧ arena'.Applies right value

theorem Equivalent.knowsSame (h : arena.Equivalent arena') : arena.KnowsSame arena' := by
  have happlied : ∀ {arena : Arena} {left right : Ty}, arena.WellFormed →
      ((∃ value, arena.Applies left value ∧ arena.Applies right value) ↔
        left.Over arena ∧ right.Over arena ∧ arena.Equates left right) := by
    intro arena left right hwf
    simp only [applies_iff hwf, Arena.equates_iff hwf]
    constructor
    · rintro ⟨value, ⟨hleft, rfl⟩, hright, heq⟩
      exact ⟨hleft, hright, heq⟩
    · rintro ⟨hleft, hright, heq⟩
      exact ⟨_, ⟨hleft, rfl⟩, hright, heq⟩
  intro left right
  rw [happlied h.wellFormed, happlied h.wellFormed', h.over_iff, h.over_iff, h.equates_iff]

end Arena

end Typeflow
