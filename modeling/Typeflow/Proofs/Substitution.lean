import Typeflow.Ty

/-!
Types as trees. A substitution replaces the variables of a type; it is any map from variables to
types, so the types it reaches are always finite. The variables of a type, the places that are
empty and the height of a type are followed through a substitution.
-/

namespace Typeflow.Ty

/-- Induction over types, with the statement known of every parameter of a function type. -/
@[elab_as_elim]
theorem inductionOn {motive : Ty → Prop} (ty : Ty)
    (name : ∀ name, motive (.name name)) (var : ∀ var, motive (.var var))
    (fn : ∀ params result, (∀ p ∈ params, motive p) → motive result →
      motive (.fn params result))
    (unresolvable : motive .unresolvable) (absent : motive .absent) : motive ty := by
  refine @Ty.rec motive (fun params => ∀ p ∈ params, motive p) name var fn unresolvable absent
    ?_ ?_ ty
  · intro p hp
    cases hp
  · intro first rest hfirst hrest p hp
    rcases List.mem_cons.mp hp with rfl | hp
    · exact hfirst
    · exact hrest p hp

mutual

def vars : Ty → List TypeVar
  | .var v => [v]
  | .fn params result => varsList params ++ result.vars
  | _ => []

def varsList : List Ty → List TypeVar
  | [] => []
  | ty :: rest => ty.vars ++ varsList rest

end

mutual

/-- No place of the type is empty. -/
def nilFree : Ty → Bool
  | .absent => false
  | .fn params result => nilFreeList params && result.nilFree
  | _ => true

def nilFreeList : List Ty → Bool
  | [] => true
  | ty :: rest => ty.nilFree && nilFreeList rest

end

mutual

/-- The type with `s v` in the place of every variable `v`. -/
def subst (s : TypeVar → Ty) : Ty → Ty
  | .var v => s v
  | .fn params result => .fn (substList s params) (result.subst s)
  | .name n => .name n
  | .unresolvable => .unresolvable
  | .absent => .absent

def substList (s : TypeVar → Ty) : List Ty → List Ty
  | [] => []
  | ty :: rest => ty.subst s :: substList s rest

end

theorem mem_varsList {v : TypeVar} {types : List Ty} :
    v ∈ varsList types ↔ ∃ ty ∈ types, v ∈ ty.vars := by
  induction types with
  | nil => simp [varsList]
  | cons ty rest ih => simp [varsList, ih]

theorem nilFreeList_iff {types : List Ty} :
    nilFreeList types = true ↔ ∀ ty ∈ types, ty.nilFree = true := by
  induction types with
  | nil => simp [nilFreeList]
  | cons ty rest ih => simp [nilFreeList, ih]

theorem substList_eq_map (s : TypeVar → Ty) (types : List Ty) :
    substList s types = types.map (subst s) := by
  induction types with
  | nil => rfl
  | cons ty rest ih => simp [substList, ih]

theorem anyUnresolvable_eq_any (types : List Ty) :
    anyUnresolvable types = types.any mentionsUnresolvable := by
  induction types with
  | nil => rfl
  | cons ty rest ih => rw [anyUnresolvable, ih, List.any_cons]

theorem anyUnresolvable_eq_false {types : List Ty} :
    anyUnresolvable types = false ↔ ∀ ty ∈ types, ty.mentionsUnresolvable = false := by
  simp [anyUnresolvable_eq_any]

theorem mentionsUnresolvable_fn {params : List Ty} {result : Ty} :
    (Ty.fn params result).mentionsUnresolvable = false ↔
      (∀ p ∈ params, p.mentionsUnresolvable = false) ∧ result.mentionsUnresolvable = false := by
  rw [mentionsUnresolvable, Bool.or_eq_false_iff, anyUnresolvable_eq_false]

theorem heightList_le_iff {types : List Ty} {bound : Nat} :
    heightList types ≤ bound ↔ ∀ ty ∈ types, ty.height ≤ bound := by
  induction types with
  | nil => simp [heightList]
  | cons ty rest ih => rw [heightList, Nat.max_le, ih, List.forall_mem_cons]

@[simp] theorem mem_vars_var {v w : TypeVar} : v ∈ (Ty.var w).vars ↔ v = w := by simp [vars]

@[simp] theorem mem_vars_fn {v : TypeVar} {params : List Ty} {result : Ty} :
    v ∈ (Ty.fn params result).vars ↔ (∃ p ∈ params, v ∈ p.vars) ∨ v ∈ result.vars := by
  simp [vars, mem_varsList]

@[simp] theorem vars_name (n : Identifier) : (Ty.name n).vars = [] := rfl

@[simp] theorem vars_unresolvable : Ty.unresolvable.vars = [] := rfl

@[simp] theorem vars_absent : Ty.absent.vars = [] := rfl

@[simp] theorem nilFree_fn {params : List Ty} {result : Ty} :
    (Ty.fn params result).nilFree = true ↔
      (∀ p ∈ params, p.nilFree = true) ∧ result.nilFree = true := by
  simp [nilFree, nilFreeList_iff]

theorem ne_absent_of_nilFree {ty : Ty} (h : ty.nilFree = true) : ty ≠ .absent := by
  rintro rfl
  cases h

@[simp] theorem subst_var (s : TypeVar → Ty) (v : TypeVar) : (Ty.var v).subst s = s v := rfl

@[simp] theorem subst_fn (s : TypeVar → Ty) (params : List Ty) (result : Ty) :
    (Ty.fn params result).subst s = .fn (params.map (subst s)) (result.subst s) := by
  simp [subst, substList_eq_map]

@[simp] theorem subst_name (s : TypeVar → Ty) (n : Identifier) :
    (Ty.name n).subst s = .name n := rfl

@[simp] theorem subst_unresolvable (s : TypeVar → Ty) :
    Ty.unresolvable.subst s = .unresolvable := rfl

@[simp] theorem subst_absent (s : TypeVar → Ty) : Ty.absent.subst s = .absent := rfl

theorem height_pos (ty : Ty) : 0 < ty.height := by
  cases ty <;> simp [height]

theorem height_fn_le_iff {params : List Ty} {result : Ty} {bound : Nat} :
    (Ty.fn params result).height ≤ bound + 1 ↔
      (∀ p ∈ params, p.height ≤ bound) ∧ result.height ≤ bound := by
  rw [height, Nat.add_le_add_iff_right, Nat.max_le, heightList_le_iff]

theorem height_lt_of_mem {params : List Ty} {result part : Ty} (h : part ∈ params ++ [result]) :
    part.height < (Ty.fn params result).height := by
  have hparts : (∀ p ∈ params, p.height ≤ max (heightList params) result.height) ∧
      result.height ≤ max (heightList params) result.height :=
    height_fn_le_iff.mp (Nat.le_refl _)
  have hpart : part.height ≤ max (heightList params) result.height := by
    rcases List.mem_append.mp h with h | h
    · exact hparts.1 part h
    · rw [List.mem_singleton.mp h]
      exact hparts.2
  rw [height]
  omega

theorem subst_congr {s s' : TypeVar → Ty} {ty : Ty} (h : ∀ v ∈ ty.vars, s v = s' v) :
    ty.subst s = ty.subst s' := by
  induction ty using inductionOn with
  | name n => rfl
  | var v => exact h v (by simp)
  | fn params result ihp ihr =>
    have hparams : params.map (subst s) = params.map (subst s') :=
      List.map_congr_left fun p hp =>
        ihp p hp fun v hv => h v (mem_vars_fn.mpr (Or.inl ⟨p, hp, hv⟩))
    have hresult := ihr fun v hv => h v (mem_vars_fn.mpr (Or.inr hv))
    rw [subst_fn, subst_fn, hparams, hresult]
  | unresolvable => rfl
  | absent => rfl

theorem subst_eq_self {s : TypeVar → Ty} {ty : Ty} (h : ∀ v ∈ ty.vars, s v = .var v) :
    ty.subst s = ty := by
  induction ty using inductionOn with
  | name n => rfl
  | var v => exact h v (by simp)
  | fn params result ihp ihr =>
    have hparams : params.map (subst s) = params.map id :=
      List.map_congr_left fun p hp =>
        ihp p hp fun v hv => h v (mem_vars_fn.mpr (Or.inl ⟨p, hp, hv⟩))
    have hresult := ihr fun v hv => h v (mem_vars_fn.mpr (Or.inr hv))
    rw [subst_fn, hparams, hresult, List.map_id]
  | unresolvable => rfl
  | absent => rfl

theorem subst_subst (s s' : TypeVar → Ty) (ty : Ty) :
    (ty.subst s).subst s' = ty.subst fun v => (s v).subst s' := by
  induction ty using inductionOn with
  | name n => rfl
  | var v => rfl
  | fn params result ihp ihr =>
    simp only [subst_fn, List.map_map, ihr, Ty.fn.injEq, and_true]
    exact List.map_congr_left fun p hp => ihp p hp
  | unresolvable => rfl
  | absent => rfl

theorem mem_vars_subst {s : TypeVar → Ty} {ty : Ty} {v : TypeVar} :
    v ∈ (ty.subst s).vars ↔ ∃ w ∈ ty.vars, v ∈ (s w).vars := by
  induction ty using inductionOn with
  | name n => simp
  | var w => simp
  | fn params result ihp ihr =>
    rw [subst_fn, mem_vars_fn, ihr]
    constructor
    · rintro (⟨q, hq, hv⟩ | ⟨w, hw, hv⟩)
      · obtain ⟨p, hp, rfl⟩ := List.mem_map.mp hq
        obtain ⟨w, hw, hv⟩ := (ihp p hp).mp hv
        exact ⟨w, mem_vars_fn.mpr (Or.inl ⟨p, hp, hw⟩), hv⟩
      · exact ⟨w, mem_vars_fn.mpr (Or.inr hw), hv⟩
    · rintro ⟨w, hw, hv⟩
      rcases mem_vars_fn.mp hw with ⟨p, hp, hw⟩ | hw
      · exact Or.inl ⟨_, List.mem_map_of_mem hp, (ihp p hp).mpr ⟨w, hw, hv⟩⟩
      · exact Or.inr ⟨w, hw, hv⟩
  | unresolvable => simp
  | absent => simp

theorem exists_part_of_mem_vars {params : List Ty} {result : Ty} {v : TypeVar}
    (h : v ∈ (Ty.fn params result).vars) : ∃ part ∈ params ++ [result], v ∈ part.vars := by
  rcases mem_vars_fn.mp h with ⟨p, hp, hv⟩ | hv
  · exact ⟨p, List.mem_append_left _ hp, hv⟩
  · exact ⟨result, by simp, hv⟩

theorem height_subst_lt_of_mem {params : List Ty} {result part : Ty}
    (h : part ∈ params ++ [result]) (s : TypeVar → Ty) :
    (part.subst s).height < ((Ty.fn params result).subst s).height := by
  have hmem : part.subst s ∈ params.map (subst s) ++ [result.subst s] := by
    rw [← List.map_singleton, ← List.map_append]
    exact List.mem_map_of_mem h
  rw [subst_fn]
  exact height_lt_of_mem hmem

/-- A type is at least as tall as what is put into it. -/
theorem height_le_height_subst {s : TypeVar → Ty} {ty : Ty} {v : TypeVar} (h : v ∈ ty.vars) :
    (s v).height ≤ (ty.subst s).height := by
  induction ty using inductionOn with
  | name n => simp at h
  | var w =>
    obtain rfl := mem_vars_var.mp h
    exact Nat.le_refl _
  | fn params result ihp ihr =>
    obtain ⟨part, hmem, hv⟩ := exists_part_of_mem_vars h
    have hlt := height_subst_lt_of_mem hmem s
    have hpart : (s v).height ≤ (part.subst s).height := by
      rcases List.mem_append.mp hmem with hp | hr
      · exact ihp part hp hv
      · obtain rfl := List.mem_singleton.mp hr
        exact ihr hv
    omega
  | unresolvable => simp at h
  | absent => simp at h

/-- The occurs check: nothing that is put in the place of a variable makes it equal to a larger
type in which it stands. -/
theorem ne_subst_of_mem_vars {ty : Ty} {v : TypeVar} (hv : v ∈ ty.vars) (hty : ∀ w, ty ≠ .var w)
    (s : TypeVar → Ty) : s v ≠ ty.subst s := by
  cases ty with
  | fn params result =>
    obtain ⟨part, hmem, hv⟩ := exists_part_of_mem_vars hv
    have hle : (s v).height ≤ (part.subst s).height := height_le_height_subst hv
    have hlt := height_subst_lt_of_mem hmem s
    intro heq
    rw [heq] at hle
    omega
  | var w => exact absurd rfl (hty w)
  | _ => simp at hv

/-- A type grows by no more than the tallest type that is put into it. -/
theorem height_subst_le {s : TypeVar → Ty} {bound : Nat} {ty : Ty}
    (h : ∀ v ∈ ty.vars, (s v).height ≤ bound) : (ty.subst s).height ≤ ty.height + bound := by
  induction ty using inductionOn with
  | name n => simp [height]
  | var v =>
    have hv := h v (by simp)
    simp only [subst_var]
    omega
  | fn params result ihp ihr =>
    have hresult := ihr fun v hv => h v (mem_vars_fn.mpr (Or.inr hv))
    have hheight : (∀ p ∈ params, p.height ≤ max (heightList params) result.height) ∧
        result.height ≤ max (heightList params) result.height :=
      height_fn_le_iff.mp (Nat.le_refl _)
    have hsum : (Ty.fn params result).height + bound =
        max (heightList params) result.height + bound + 1 := by
      simp only [height]
      omega
    rw [subst_fn, hsum, height_fn_le_iff]
    refine ⟨fun q hq => ?_, by omega⟩
    obtain ⟨p, hp, rfl⟩ := List.mem_map.mp hq
    have hparam := ihp p hp fun v hv => h v (mem_vars_fn.mpr (Or.inl ⟨p, hp, hv⟩))
    have hp' := hheight.1 p hp
    omega
  | unresolvable => simp [height]
  | absent => simp [height]

end Typeflow.Ty
