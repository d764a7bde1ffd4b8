import Typeflow.Arena.Basic
import Typeflow.Proofs.Substitution

/-!
The entries of an arena, read variable by variable. The engine changes an arena only by setting
the entry of one variable or by adding a variable without an entry; what each of the two does to
the entries is said here once, so that nothing above this module looks at the array.
-/

namespace Typeflow.Arena

/-- The variable is one of those of the arena. -/
def Owns (arena : Arena) (v : TypeVar) : Prop := 0 ≤ v.index ∧ v.index < arena.size

instance (arena : Arena) (v : TypeVar) : Decidable (arena.Owns v) :=
  inferInstanceAs (Decidable (_ ∧ _))

/-- What has been substituted for a variable. There is nothing for a foreign variable. -/
def entry (arena : Arena) (v : TypeVar) : Option Ty :=
  match arena.lookup v with
  | .ok entry => entry
  | .error _ => none

theorem owns_iff_exists {arena : Arena} {v : TypeVar} :
    arena.Owns v ↔ ∃ n : Nat, n < arena.size ∧ v = ⟨n⟩ := by
  obtain ⟨index⟩ := v
  constructor
  · rintro ⟨hnonneg, hlt⟩
    simp only at hnonneg hlt
    refine ⟨index.toNat, by omega, ?_⟩
    rw [Int.toNat_of_nonneg hnonneg]
  · rintro ⟨n, hn, hv⟩
    cases hv
    exact ⟨by simp, by simpa using hn⟩

theorem owns_natCast {arena : Arena} {n : Nat} : arena.Owns ⟨n⟩ ↔ n < arena.size := by
  simp [Owns]

theorem lookup_natCast (arena : Arena) (n : Nat) :
    arena.lookup ⟨n⟩ = match arena.entries[n]? with
      | some entry => .ok entry
      | none => .error (.foreignVariable ⟨n⟩) := rfl

theorem entry_natCast (arena : Arena) (n : Nat) :
    arena.entry ⟨n⟩ = (arena.entries[n]?).getD none := by
  unfold entry
  rw [lookup_natCast]
  cases arena.entries[n]? <;> rfl

theorem lookup_of_owns {arena : Arena} {v : TypeVar} (h : arena.Owns v) :
    arena.lookup v = .ok (arena.entry v) := by
  obtain ⟨n, hn, rfl⟩ := owns_iff_exists.mp h
  have hget : arena.entries[n]? = some arena.entries[n] := Array.getElem?_eq_getElem hn
  rw [entry_natCast, lookup_natCast, hget]
  rfl

theorem lookup_of_not_owns {arena : Arena} {v : TypeVar} (h : ¬ arena.Owns v) :
    arena.lookup v = .error (.foreignVariable v) := by
  obtain ⟨index⟩ := v
  cases index with
  | ofNat n =>
    have hn : arena.size ≤ n := by
      have hnot : ¬ n < arena.size := fun hn => h (owns_natCast.mpr hn)
      omega
    have hget : arena.entries[n]? = none := Array.getElem?_eq_none hn
    have hlookup := lookup_natCast arena n
    rw [hget] at hlookup
    exact hlookup
  | negSucc n => rfl

theorem entry_of_not_owns {arena : Arena} {v : TypeVar} (h : ¬ arena.Owns v) :
    arena.entry v = none := by
  unfold entry
  rw [lookup_of_not_owns h]

theorem owns_of_entry {arena : Arena} {v : TypeVar} {ty : Ty} (h : arena.entry v = some ty) :
    arena.Owns v := by
  by_cases hv : arena.Owns v
  · exact hv
  · rw [entry_of_not_owns hv] at h
    cases h

theorem owns_of_lookup {arena : Arena} {v : TypeVar} {found : Option Ty}
    (h : arena.lookup v = .ok found) : arena.Owns v ∧ arena.entry v = found := by
  by_cases hv : arena.Owns v
  · rw [lookup_of_owns hv] at h
    exact ⟨hv, Except.ok.inj h⟩
  · rw [lookup_of_not_owns hv] at h
    cases h

theorem ext_entry {arena arena' : Arena} (hsize : arena.size = arena'.size)
    (hentry : ∀ v, arena.entry v = arena'.entry v) : arena = arena' := by
  obtain ⟨entries⟩ := arena
  obtain ⟨entries'⟩ := arena'
  refine congrArg Arena.mk (Array.ext hsize fun n hn hn' => ?_)
  have heq := hentry ⟨n⟩
  rw [entry_natCast, entry_natCast] at heq
  simpa [hn, hn'] using heq

@[simp] theorem size_assign (arena : Arena) (v : TypeVar) (ty : Ty) :
    (arena.assign v ty).size = arena.size := by
  simp [assign, size]

@[simp] theorem owns_assign {arena : Arena} {v w : TypeVar} {ty : Ty} :
    (arena.assign v ty).Owns w ↔ arena.Owns w := by
  simp [Owns]

theorem entry_assign {arena : Arena} {v : TypeVar} {ty : Ty} (hv : arena.Owns v)
    (hty : ty ≠ .absent) (w : TypeVar) :
    (arena.assign v ty).entry w = if w = v then some ty else arena.entry w := by
  by_cases hw : arena.Owns w
  · obtain ⟨n, hn, rfl⟩ := owns_iff_exists.mp hv
    obtain ⟨m, hm, rfl⟩ := owns_iff_exists.mp hw
    have hnsize : n < arena.entries.size := hn
    rw [entry_natCast, entry_natCast]
    by_cases hmn : m = n
    · subst hmn
      simp [assign, hty, hnsize]
    · have hne : ¬ n = m := fun h => hmn h.symm
      have hvar : (⟨m⟩ : TypeVar) ≠ ⟨n⟩ := by
        intro h
        injection h with h
        omega
      rw [if_neg hvar]
      simp [assign, hne]
  · have hne : w ≠ v := fun h => hw (h ▸ hv)
    rw [if_neg hne, entry_of_not_owns hw, entry_of_not_owns (by simpa using hw)]

@[simp] theorem size_fresh (arena : Arena) : arena.fresh.2.size = arena.size + 1 := by
  simp [fresh, size]

@[simp] theorem entry_fresh (arena : Arena) (v : TypeVar) :
    arena.fresh.2.entry v = arena.entry v := by
  by_cases hv : arena.fresh.2.Owns v
  · obtain ⟨n, hn, rfl⟩ := owns_iff_exists.mp hv
    rw [entry_natCast, entry_natCast]
    simp only [fresh, Array.getElem?_push]
    split
    · rename_i hlast
      rw [hlast, Array.getElem?_eq_none (Nat.le_refl _)]
      rfl
    · rfl
  · have hold : ¬ arena.Owns v := by
      simp only [Owns, size_fresh] at hv ⊢
      omega
    rw [entry_of_not_owns hv, entry_of_not_owns hold]

/-- The arena with `count` more unbound variables. -/
def grow (arena : Arena) (count : Nat) : Arena :=
  ⟨arena.entries ++ Array.replicate count none⟩

theorem size_grow (arena : Arena) (count : Nat) :
    (arena.grow count).size = arena.size + count := by
  simp [grow, size]

theorem grow_zero (arena : Arena) : arena.grow 0 = arena := by
  simp [grow]

theorem grow_grow (arena : Arena) (m n : Nat) : (arena.grow m).grow n = arena.grow (m + n) := by
  simp [grow, Array.append_assoc, Array.replicate_append_replicate]

theorem fresh_eq_grow (arena : Arena) : arena.fresh = (⟨(arena.size : Int)⟩, arena.grow 1) := by
  simp [fresh, grow]

theorem entry_grow (arena : Arena) (count : Nat) (v : TypeVar) :
    (arena.grow count).entry v = arena.entry v := by
  induction count with
  | zero => rw [grow_zero]
  | succ count ih =>
    have hfresh := entry_fresh (arena.grow count) v
    rw [fresh_eq_grow, grow_grow] at hfresh
    rw [hfresh, ih]

theorem entry_empty (v : TypeVar) : empty.entry v = none :=
  entry_of_not_owns (by simp [Owns, empty, size])

theorem size_grow_empty (count : Nat) : (empty.grow count).size = count := by
  rw [size_grow]
  exact Nat.zero_add count

theorem follow_of_ne_var {ty : Ty} (arena : Arena) (steps : Nat) (h : ∀ w, ty ≠ .var w) :
    arena.follow steps ty = .ok (ty, []) := by
  cases ty with
  | var w => exact absurd rfl (h w)
  | _ => simp [follow]

theorem resolve_of_ne_var {ty : Ty} (arena : Arena) (h : ∀ w, ty ≠ .var w) :
    resolve ty arena = .ok ty arena := by
  unfold resolve
  rw [follow_of_ne_var arena _ h]
  rfl

private theorem foldl_max_le (heights : List (Option Ty)) (start : Nat) :
    start ≤ heights.foldl (fun height entry => max height ((entry.map Ty.height).getD 0)) start ∧
      ∀ ty, some ty ∈ heights → ty.height ≤
        heights.foldl (fun height entry => max height ((entry.map Ty.height).getD 0)) start := by
  induction heights generalizing start with
  | nil => simp
  | cons first rest ih =>
    simp only [List.foldl_cons]
    obtain ⟨hstart, hrest⟩ := ih (max start ((first.map Ty.height).getD 0))
    refine ⟨by omega, ?_⟩
    intro ty hty
    rcases List.mem_cons.mp hty with rfl | hty
    · simp only [Option.map_some, Option.getD_some] at hstart ⊢
      omega
    · exact hrest ty hty

/-- The bound for the nesting of types is made from a height that no given type and no entry
exceeds. -/
theorem exists_tallest (arena : Arena) (types : List Ty) :
    ∃ tallest, arena.depthBound types = (arena.size + 1) * (tallest + 1) ∧
      (∀ ty ∈ types, ty.height ≤ tallest) ∧
      ∀ v ty, arena.entry v = some ty → ty.height ≤ tallest := by
  refine ⟨_, rfl, ?_, ?_⟩
  · intro ty hty
    have htypes := Ty.heightList_le_iff.mp (Nat.le_refl (Ty.heightList types)) ty hty
    rw [← Array.foldl_toList]
    exact Nat.le_trans htypes (foldl_max_le _ _).1
  · intro v ty hty
    obtain ⟨n, hn, rfl⟩ := owns_iff_exists.mp (owns_of_entry hty)
    rw [entry_natCast, Array.getElem?_eq_getElem hn, Option.getD_some] at hty
    have hmem : some ty ∈ arena.entries.toList := by
      rw [← hty]
      exact Array.getElem_mem_toList hn
    rw [← Array.foldl_toList]
    exact (foldl_max_le _ _).2 ty hmem

theorem exists_depth (arena : Arena) (types : List Ty) :
    ∃ depth, arena.depthBound types = depth + 1 ∧ (∀ ty ∈ types, ty.height ≤ depth) ∧
      ∀ v ty, arena.entry v = some ty → ty.height ≤ depth := by
  obtain ⟨tallest, hbound, htypes, hentries⟩ := exists_tallest arena types
  have hprod : 1 * (tallest + 1) ≤ (arena.size + 1) * (tallest + 1) :=
    Nat.mul_le_mul_right _ (by omega)
  refine ⟨arena.depthBound types - 1, by omega, fun ty hty => ?_, fun v ty hty => ?_⟩
  · have hheight := htypes ty hty
    omega
  · have hheight := hentries v ty hty
    omega

theorem height_le_depthBound {arena : Arena} {types : List Ty} {ty : Ty} (h : ty ∈ types) :
    ty.height ≤ arena.depthBound types := by
  obtain ⟨depth, hdepth, htypes, _⟩ := exists_depth arena types
  have hheight := htypes ty h
  omega

end Typeflow.Arena
