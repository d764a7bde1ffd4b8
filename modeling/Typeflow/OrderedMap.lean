import Typeflow.Dictionary

/-!
Maps that remember the order in which keys were first added. The keys stand in a list and the
values in a dictionary. A key keeps its first value: adding it again is refused and changes
nothing.
-/

namespace Typeflow

structure OrderedMap (κ ν : Type) where
  order : List κ
  store : Dictionary κ ν

namespace OrderedMap

variable {κ ν : Type}

def empty : OrderedMap κ ν := ⟨[], .empty⟩

def size (map : OrderedMap κ ν) : Nat := map.order.length

def keys (map : OrderedMap κ ν) : List κ := map.order

variable [DecidableEq κ]

def get? (map : OrderedMap κ ν) (key : κ) : Option ν := map.store.get? key

def contains (map : OrderedMap κ ν) (key : κ) : Bool := map.store.contains key

/-- Adds a key behind the others, and says whether it was new. -/
def add (map : OrderedMap κ ν) (key : κ) (value : ν) : Bool × OrderedMap κ ν :=
  if map.contains key then (false, map)
  else
    let map := { map with order := map.order ++ [key] }
    let map := { map with store := map.store.set key value }
    (true, map)

variable [Inhabited ν]

def values (map : OrderedMap κ ν) : List ν := map.order.map map.store.value

def iter {m : Type → Type} [Monad m] (map : OrderedMap κ ν) (visit : κ → ν → m Unit) : m Unit :=
  map.order.forM fun key => visit key (map.store.value key)

end OrderedMap

namespace OrderedMap

variable {κ ν : Type} [DecidableEq κ] {map : OrderedMap κ ν} {key : κ}

/-- The list of keys and the dictionary of values belong together. -/
structure Agrees (map : OrderedMap κ ν) : Prop where
  nodup : map.keys.Nodup
  mem_keys_iff : ∀ key, key ∈ map.keys ↔ map.contains key = true

theorem agrees_empty : (empty : OrderedMap κ ν).Agrees :=
  ⟨List.nodup_nil, fun _ => by
    simp [empty, keys, contains, Dictionary.contains, Dictionary.get?_empty]⟩

theorem add_of_contains (h : map.contains key = true) (value : ν) :
    map.add key value = (false, map) := by
  simp [add, h]

theorem add_of_not_contains (h : map.contains key = false) (value : ν) :
    map.add key value = (true, ⟨map.order ++ [key], map.store.set key value⟩) := by
  simp [add, h]

/-- The two writes of an addition keep the keys and the values together. -/
theorem Agrees.add (h : map.Agrees) (key : κ) (value : ν) : (map.add key value).2.Agrees := by
  cases hkey : map.contains key with
  | true =>
    rw [add_of_contains hkey]
    exact h
  | false =>
    have hnew : key ∉ map.keys := by simp [h.mem_keys_iff, hkey]
    rw [add_of_not_contains hkey]
    constructor
    · exact List.nodup_append.2 ⟨h.nodup, List.nodup_cons.2 ⟨List.not_mem_nil, List.nodup_nil⟩,
        fun a ha b hb => by
          rw [List.mem_singleton.1 hb]
          exact fun heq => hnew (heq ▸ ha)⟩
    · intro other
      have hother : other ∈ map.order ↔ map.store.contains other = true := h.mem_keys_iff other
      rw [contains, Dictionary.contains_set, keys, List.mem_append, List.mem_singleton, hother]
      exact or_comm

end OrderedMap

end Typeflow
