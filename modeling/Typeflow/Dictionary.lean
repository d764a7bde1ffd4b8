/-!
Dictionaries: finite maps without an order. A key has at most one entry. The entries stand in some
order, and who goes through a dictionary sorts its keys, so that this order is not seen.
-/

namespace Typeflow

structure Dictionary (κ ν : Type) where
  entries : List (κ × ν)
  distinct : (entries.map (·.1)).Nodup

namespace Dictionary

variable {κ ν : Type}

def empty : Dictionary κ ν := ⟨[], List.Pairwise.nil⟩

def keys (dictionary : Dictionary κ ν) : List κ := dictionary.entries.map (·.1)

def insertKey (compare : κ → κ → Ordering) (key : κ) : List κ → List κ
  | [] => [key]
  | other :: rest =>
    if compare key other = .lt then key :: other :: rest
    else other :: insertKey compare key rest

def sortedKeys (dictionary : Dictionary κ ν) (compare : κ → κ → Ordering) : List κ :=
  dictionary.keys.foldr (insertKey compare) []

variable [DecidableEq κ]

def get? (dictionary : Dictionary κ ν) (key : κ) : Option ν :=
  (dictionary.entries.find? (·.1 = key)).map (·.2)

def contains (dictionary : Dictionary κ ν) (key : κ) : Bool := (dictionary.get? key).isSome

/-- The value of a key. A key without an entry has the default one. -/
def value [Inhabited ν] (dictionary : Dictionary κ ν) (key : κ) : ν :=
  (dictionary.get? key).getD default

def sorted [Inhabited ν] (dictionary : Dictionary κ ν) (compare : κ → κ → Ordering) :
    List (κ × ν) :=
  (dictionary.sortedKeys compare).map fun key => (key, dictionary.value key)

/-- Writes over the entry of a key, or adds one. -/
def put (key : κ) (value : ν) : List (κ × ν) → List (κ × ν)
  | [] => [(key, value)]
  | (other, known) :: rest =>
    if other = key then (key, value) :: rest else (other, known) :: put key value rest

theorem mem_keys_put {key other : κ} {value : ν} {entries : List (κ × ν)} :
    other ∈ (put key value entries).map (·.1) ↔ other = key ∨ other ∈ entries.map (·.1) := by
  induction entries with
  | nil => simp [put]
  | cons first rest ih =>
    unfold put
    split
    · next heq => simp [heq]
    · simp only [List.map_cons, List.mem_cons, ih]
      exact or_left_comm

theorem distinct_put {key : κ} {value : ν} {entries : List (κ × ν)}
    (h : (entries.map (·.1)).Nodup) : ((put key value entries).map (·.1)).Nodup := by
  induction entries with
  | nil => simp [put]
  | cons first rest ih =>
    obtain ⟨hfirst, hrest⟩ := List.nodup_cons.1 h
    unfold put
    split
    · next heq => exact List.nodup_cons.2 ⟨heq ▸ hfirst, hrest⟩
    · next hne =>
      refine List.nodup_cons.2 ⟨fun hmem => ?_, ih hrest⟩
      exact (mem_keys_put.1 hmem).elim hne hfirst

def set (dictionary : Dictionary κ ν) (key : κ) (value : ν) : Dictionary κ ν :=
  ⟨put key value dictionary.entries, distinct_put dictionary.distinct⟩

def erase (dictionary : Dictionary κ ν) (key : κ) : Dictionary κ ν :=
  ⟨dictionary.entries.filter (·.1 ≠ key),
    dictionary.distinct.sublist (List.filter_sublist.map _)⟩

/-- Later entries of a key replace earlier ones. -/
def ofList (entries : List (κ × ν)) : Dictionary κ ν :=
  entries.foldl (fun dictionary (key, value) => dictionary.set key value) empty

theorem get?_empty (key : κ) : (empty : Dictionary κ ν).get? key = none := rfl

theorem get?_set (dictionary : Dictionary κ ν) (key other : κ) (value : ν) :
    (dictionary.set key value).get? other =
      if other = key then some value else dictionary.get? other := by
  unfold get? set
  dsimp only
  induction dictionary.entries with
  | nil => by_cases h : other = key <;> simp [put, h, eq_comm]
  | cons first rest ih =>
    unfold put
    split
    · next heq => by_cases h : other = key <;> simp [h, heq, eq_comm]
    · next hne =>
      by_cases h : first.1 = other
      · simp [h, h ▸ hne]
      · simpa [h] using ih

theorem get?_erase (dictionary : Dictionary κ ν) (key other : κ) :
    (dictionary.erase key).get? other = if other = key then none else dictionary.get? other := by
  unfold get? erase
  dsimp only
  induction dictionary.entries with
  | nil => simp
  | cons first rest ih =>
    by_cases hfirst : first.1 = key
    · by_cases h : other = key
      · simp [h]
      · simpa [hfirst, h, Ne.symm h] using ih
    · by_cases h : first.1 = other
      · simp [h, h ▸ hfirst]
      · simpa [hfirst, h] using ih

theorem contains_set {dictionary : Dictionary κ ν} {key other : κ} {value : ν} :
    (dictionary.set key value).contains other = true ↔
      other = key ∨ dictionary.contains other = true := by
  unfold contains
  rw [get?_set]
  split <;> simp [*]

theorem value_set [Inhabited ν] (dictionary : Dictionary κ ν) (key other : κ) (value : ν) :
    (dictionary.set key value).value other =
      if other = key then value else dictionary.value other := by
  unfold Dictionary.value
  rw [get?_set]
  split <;> rfl

theorem mem_keys_iff {dictionary : Dictionary κ ν} {key : κ} :
    key ∈ dictionary.keys ↔ dictionary.contains key = true := by
  simp [keys, contains, get?]

end Dictionary

end Typeflow
