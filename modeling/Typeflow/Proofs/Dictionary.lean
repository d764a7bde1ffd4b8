import Mathlib.Data.List.Induction
import Mathlib.Data.List.Nodup
import Typeflow.Catalogue

/-!
Going through a dictionary. Its keys, sorted by a lawful comparison, are its keys in increasing
order, and with their values they make up its entries. So what is read off in this order does not
depend on the order in which the entries stand.
-/

namespace Typeflow

theorem Text.compare_eq_lt_iff {a b : Text} : Text.compare a b = .lt ↔ a < b := by
  unfold Text.compare
  split
  · simpa
  · split <;> simpa

theorem Text.isLE_compare_iff {a b : Text} : (Text.compare a b).isLE = true ↔ a ≤ b := by
  unfold Text.compare
  split
  · next hlt => simpa using List.le_of_lt hlt
  · split
    · next hgt => simpa using hgt
    · next hgt => simpa using hgt

instance : Std.TransCmp Text.compare where
  eq_swap {a b} := by
    unfold Text.compare
    by_cases hab : a < b
    · simp [hab, List.lt_asymm hab]
    · by_cases hba : b < a <;> simp [hab, hba]
  isLE_trans hab hbc := by
    rw [Text.isLE_compare_iff] at *
    exact List.le_trans hab hbc

instance : Std.LawfulEqCmp Text.compare where
  compare_self := by simp [Text.compare, List.lt_irrefl]
  eq_of_compare {a b} h := by
    have hab : a ≤ b := Text.isLE_compare_iff.mp (by rw [h]; rfl)
    have hba : b ≤ a := Text.isLE_compare_iff.mp (by rw [Std.OrientedCmp.eq_symm h]; rfl)
    exact List.le_antisymm hab hba

theorem Identifier.compare_eq_lt_iff {a b : Identifier} :
    Identifier.compare a b = .lt ↔ a.text < b.text :=
  Text.compare_eq_lt_iff

instance : Std.TransCmp Identifier.compare where
  eq_swap {a b} := (Std.OrientedCmp.eq_swap : Text.compare a.text b.text = _)
  isLE_trans {a _ c} hab hbc :=
    (Std.TransCmp.isLE_trans hab hbc : (Text.compare a.text c.text).isLE = true)

instance : Std.LawfulEqCmp Identifier.compare where
  compare_self {a} := (Std.ReflCmp.compare_self : Text.compare a.text a.text = .eq)
  eq_of_compare {a b} h := by
    obtain ⟨a⟩ := a
    obtain ⟨b⟩ := b
    have hcompare : Text.compare a b = .eq := h
    exact congrArg _ (Std.LawfulEqCmp.eq_of_compare hcompare)

namespace Dictionary

section Sorting

variable {κ : Type} {compare : κ → κ → Ordering} {key : κ} {keys : List κ}

theorem insertKey_perm (compare : κ → κ → Ordering) (key : κ) (keys : List κ) :
    (insertKey compare key keys).Perm (key :: keys) := by
  induction keys with
  | nil => exact List.Perm.refl _
  | cons other rest ih =>
    unfold insertKey
    split
    · exact List.Perm.refl _
    · exact (ih.cons other).trans (List.Perm.swap ..)

theorem insertKey_pairwise [Std.TransCmp compare] [Std.LawfulEqCmp compare] (hnew : key ∉ keys)
    (h : keys.Pairwise fun a b => compare a b = .lt) :
    (insertKey compare key keys).Pairwise fun a b => compare a b = .lt := by
  induction keys with
  | nil => exact List.pairwise_singleton _ _
  | cons other rest ih =>
    obtain ⟨hother, hrest⟩ := List.pairwise_cons.mp h
    unfold insertKey
    split
    · next hlt =>
      refine List.pairwise_cons.mpr ⟨fun a ha => ?_, h⟩
      rcases List.mem_cons.mp ha with rfl | ha
      · exact hlt
      · exact Std.TransCmp.lt_trans hlt (hother a ha)
    · next hge =>
      -- The two keys differ, so the one that does not come first comes last.
      have hne : compare key other ≠ .eq := fun heq =>
        hnew (Std.LawfulEqCmp.eq_of_compare heq ▸ List.mem_cons_self)
      have hlt : compare other key = .lt := by
        cases hcompare : compare key other with
        | lt => exact absurd hcompare hge
        | eq => exact absurd hcompare hne
        | gt => exact Std.OrientedCmp.lt_of_gt hcompare
      refine List.pairwise_cons.mpr ⟨fun a ha => ?_, ih (mt (List.mem_cons_of_mem _) hnew) hrest⟩
      rw [(insertKey_perm compare key rest).mem_iff] at ha
      rcases List.mem_cons.mp ha with rfl | ha
      · exact hlt
      · exact hother a ha

theorem foldr_insertKey_perm (compare : κ → κ → Ordering) (keys : List κ) :
    (keys.foldr (insertKey compare) []).Perm keys := by
  induction keys with
  | nil => exact List.Perm.refl _
  | cons key rest ih => exact (insertKey_perm compare key _).trans (ih.cons key)

theorem foldr_insertKey_pairwise [Std.TransCmp compare] [Std.LawfulEqCmp compare]
    (hnodup : keys.Nodup) :
    (keys.foldr (insertKey compare) []).Pairwise fun a b => compare a b = .lt := by
  induction keys with
  | nil => exact List.Pairwise.nil
  | cons key rest ih =>
    obtain ⟨hkey, hrest⟩ := List.nodup_cons.mp hnodup
    refine insertKey_pairwise ?_ (ih hrest)
    rw [(foldr_insertKey_perm compare rest).mem_iff]
    exact hkey

end Sorting

variable {κ ν : Type} {dictionary dictionary' : Dictionary κ ν}
  {compare : κ → κ → Ordering}

theorem sortedKeys_perm (dictionary : Dictionary κ ν) (compare : κ → κ → Ordering) :
    (dictionary.sortedKeys compare).Perm dictionary.keys :=
  foldr_insertKey_perm compare dictionary.keys

theorem sortedKeys_pairwise (dictionary : Dictionary κ ν) [Std.TransCmp compare]
    [Std.LawfulEqCmp compare] :
    (dictionary.sortedKeys compare).Pairwise fun a b => compare a b = .lt :=
  foldr_insertKey_pairwise dictionary.distinct

variable [DecidableEq κ]

theorem get?_eq_some_iff {key : κ} {value : ν} :
    dictionary.get? key = some value ↔ (key, value) ∈ dictionary.entries := by
  obtain ⟨entries, hdistinct⟩ := dictionary
  unfold get?
  dsimp only
  induction entries with
  | nil => simp
  | cons first rest ih =>
    obtain ⟨hfirst, hrest⟩ := List.nodup_cons.mp hdistinct
    by_cases hkey : first.1 = key
    · have hnot : (key, value) ∉ rest := fun hmem =>
        hfirst (List.mem_map.mpr ⟨_, hmem, hkey.symm⟩)
      simp [hkey, hnot, Prod.ext_iff, eq_comm]
    · have hne : (key, value) ≠ first := fun heq => hkey (heq ▸ rfl)
      simpa [hkey, hne] using ih hrest

theorem mem_of_mem_put {key : κ} {value : ν} {entries : List (κ × ν)} {entry : κ × ν}
    (h : entry ∈ put key value entries) : entry = (key, value) ∨ entry ∈ entries := by
  induction entries with
  | nil => exact Or.inl (List.mem_singleton.mp h)
  | cons first rest ih =>
    unfold put at h
    split at h
    · exact (List.mem_cons.mp h).imp id (List.mem_cons_of_mem _)
    · rcases List.mem_cons.mp h with rfl | hrest
      · exact Or.inr List.mem_cons_self
      · exact (ih hrest).imp id (List.mem_cons_of_mem _)

theorem entries_ofList_concat (before : List (κ × ν)) (last : κ × ν) :
    (ofList (before ++ [last])).entries = put last.1 last.2 (ofList before).entries := by
  unfold ofList
  rw [List.foldl_concat]
  rfl

theorem mem_of_mem_ofList {entries : List (κ × ν)} {entry : κ × ν}
    (h : entry ∈ (ofList entries).entries) : entry ∈ entries := by
  induction entries using List.reverseRecOn with
  | nil => exact h
  | append_singleton before last ih =>
    rw [entries_ofList_concat] at h
    rcases mem_of_mem_put h with rfl | hbefore
    · exact List.mem_append_right _ List.mem_cons_self
    · exact List.mem_append_left _ (ih hbefore)

theorem put_of_not_mem {key : κ} {value : ν} {entries : List (κ × ν)}
    (hnew : key ∉ entries.map (·.1)) : put key value entries = entries ++ [(key, value)] := by
  induction entries with
  | nil => rfl
  | cons first rest ih =>
    rw [List.map_cons, List.mem_cons, not_or] at hnew
    unfold put
    rw [if_neg (Ne.symm hnew.1), ih hnew.2]
    rfl

theorem entries_ofList {entries : List (κ × ν)} (hnodup : (entries.map (·.1)).Nodup) :
    (ofList entries).entries = entries := by
  -- The last entry is the one that `ofList` writes last.
  induction entries using List.reverseRecOn with
  | nil => rfl
  | append_singleton before last ih =>
    rw [List.map_append, List.map_singleton, List.nodup_append_comm] at hnodup
    obtain ⟨hlast, hbefore⟩ := List.nodup_cons.mp hnodup
    rw [entries_ofList_concat, ih hbefore, put_of_not_mem hlast]

variable [Inhabited ν]

theorem keys_sorted (dictionary : Dictionary κ ν) (compare : κ → κ → Ordering) :
    (dictionary.sorted compare).map (·.1) = dictionary.sortedKeys compare := by
  simp [sorted, Function.comp_def]

theorem sorted_perm (dictionary : Dictionary κ ν) (compare : κ → κ → Ordering) :
    (dictionary.sorted compare).Perm dictionary.entries := by
  have hentries : dictionary.keys.map (fun key => (key, dictionary.value key)) =
      dictionary.entries := by
    unfold keys
    rw [List.map_map]
    refine (List.map_congr_left fun entry hentry => ?_).trans (List.map_id _)
    have hget : dictionary.get? entry.1 = some entry.2 := get?_eq_some_iff.mpr hentry
    simp [Dictionary.value, hget]
  have hsorted := (dictionary.sortedKeys_perm compare).map fun key => (key, dictionary.value key)
  rw [hentries] at hsorted
  exact hsorted

theorem sorted_pairwise (dictionary : Dictionary κ ν) [Std.TransCmp compare]
    [Std.LawfulEqCmp compare] :
    (dictionary.sorted compare).Pairwise fun a b => compare a.1 b.1 = .lt := by
  have hkeys : ((dictionary.sorted compare).map (·.1)).Pairwise
      fun a b => compare a b = .lt := by
    rw [keys_sorted]
    exact dictionary.sortedKeys_pairwise
  exact List.pairwise_map.mp hkeys

/-- Dictionaries with the same entries are gone through alike. -/
theorem sorted_eq_of_perm [Std.TransCmp compare] [Std.LawfulEqCmp compare]
    (h : dictionary.entries.Perm dictionary'.entries) :
    dictionary.sorted compare = dictionary'.sorted compare := by
  have hperm := (dictionary.sorted_perm compare).trans
    (h.trans (dictionary'.sorted_perm compare).symm)
  refine hperm.eq_of_pairwise (fun a b _ _ hab hba => ?_) dictionary.sorted_pairwise
    dictionary'.sorted_pairwise
  exact absurd hba (Std.OrientedCmp.not_lt_of_lt hab)

end Dictionary

namespace Catalogue

variable {catalogue catalogue' : Catalogue}

theorem keys_functions (catalogue : Catalogue) :
    catalogue.functions.map (·.1) = catalogue.names :=
  catalogue.keys_sorted Identifier.compare

theorem functions_perm (catalogue : Catalogue) : catalogue.functions.Perm catalogue.entries :=
  catalogue.sorted_perm Identifier.compare

theorem names_pairwise (catalogue : Catalogue) :
    catalogue.names.Pairwise fun a b => a.text < b.text :=
  catalogue.sortedKeys_pairwise.imp Identifier.compare_eq_lt_iff.mp

theorem functions_eq_of_perm (h : catalogue.entries.Perm catalogue'.entries) :
    catalogue.functions = catalogue'.functions :=
  Dictionary.sorted_eq_of_perm h

end Catalogue

end Typeflow
