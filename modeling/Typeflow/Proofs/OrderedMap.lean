import Mathlib.Logic.Function.Basic
import Typeflow.OrderedMap
import Typeflow.Proofs.Sequence

/-!
Ordered maps in use. A map stands for the list of its keys, each with its value, and every call
does to the map what it does to that list: it gives the same answer and keeps the keys and the
values together. So after any calls on the empty map a key has the value that came with it first,
and the keys stand in the order in which they came first.
-/

namespace Typeflow.OrderedMap

inductive Call (κ ν : Type) where
  | add (key : κ) (value : ν)
  | get (key : κ)
  | contains (key : κ)
  | size
  | keys
  | values
  | iterate

inductive Answer (κ ν : Type) where
  | added (new : Bool)
  | found (value : Option ν)
  | holds (answer : Bool)
  | count (n : Nat)
  | keys (keys : List κ)
  | values (values : List ν)
  | visited (entries : List (κ × ν))

/-- Calls one after the other, with their answers and the state that they leave. -/
def run {κ ν σ : Type} (perform : Call κ ν → σ → Answer κ ν × σ) :
    List (Call κ ν) → σ → List (Answer κ ν) × σ
  | [], state => ([], state)
  | call :: rest, state =>
    let first := perform call state
    let others := run perform rest first.2
    (first.1 :: others.1, others.2)

variable {κ ν : Type}

/-- The key that a call is to add, with its value. -/
def Call.addition? : Call κ ν → Option (κ × ν)
  | .add key value => some (key, value)
  | _ => none

variable [DecidableEq κ]

/-- The list with a pair at its end, unless it has one with that key. -/
def addFirst (entries : List (κ × ν)) (entry : κ × ν) : List (κ × ν) :=
  if entry.1 ∈ entries.map (·.1) then entries else entries ++ [entry]

/-- A call on a list of pairs in the order of their addition. -/
def Call.onList : Call κ ν → List (κ × ν) → Answer κ ν × List (κ × ν)
  | .add key value, entries =>
    (.added (key ∉ entries.map (·.1)), addFirst entries (key, value))
  | .get key, entries => (.found (entries.lookup key), entries)
  | .contains key, entries => (.holds (key ∈ entries.map (·.1)), entries)
  | .size, entries => (.count entries.length, entries)
  | .keys, entries => (.keys (entries.map (·.1)), entries)
  | .values, entries => (.values (entries.map (·.2)), entries)
  | .iterate, entries => (.visited entries, entries)

section Lists

variable {entries added : List (κ × ν)} {key : κ} {value : ν}

theorem run_onList_snd (calls : List (Call κ ν)) (entries : List (κ × ν)) :
    (run Call.onList calls entries).2 =
      (calls.filterMap Call.addition?).foldl addFirst entries := by
  induction calls generalizing entries with
  | nil => rfl
  | cons call rest ih =>
    rw [run, ih]
    cases call <;> rfl

/-- The keys of the list are collected by the same rule as items without repetitions. -/
theorem keys_foldl_addFirst (added : List (κ × ν)) {seen : Dictionary κ Unit}
    (hseen : ∀ key, seen.contains key = true ↔ key ∈ entries.map (·.1)) :
    (added.foldl addFirst entries).map (·.1) =
      keepFirst seen (entries.map (·.1)) (added.map (·.1)) := by
  induction added generalizing entries seen with
  | nil => rfl
  | cons entry rest ih =>
    rw [List.foldl_cons, List.map_cons, keepFirst, addFirst]
    by_cases hkey : entry.1 ∈ entries.map (·.1)
    · rw [if_pos hkey, if_pos ((hseen entry.1).mpr hkey)]
      exact ih hseen
    · rw [if_neg hkey, if_neg (mt (hseen entry.1).mp hkey)]
      have hseen' : ∀ key, (seen.set entry.1 ()).contains key = true ↔
          key ∈ (entries ++ [entry]).map (·.1) := by
        intro key
        rw [Dictionary.contains_set, hseen, List.map_append, List.mem_append, List.map_singleton,
          List.mem_singleton]
        exact or_comm
      rw [ih hseen', List.map_append, List.map_singleton]

theorem lookup_foldl_addFirst (added entries : List (κ × ν)) (key : κ) :
    (added.foldl addFirst entries).lookup key = (entries ++ added).lookup key := by
  induction added generalizing entries with
  | nil => simp
  | cons entry rest ih =>
    rw [List.foldl_cons, ih, addFirst]
    split
    · rename_i hknown
      -- The value that the key has already is found before the one that is refused.
      rw [List.lookup_append, List.lookup_append]
      by_cases heq : key = entry.1
      · have hsome : (entries.lookup key).isSome = true := by
          rw [heq]
          simpa [List.lookup_isSome_iff] using hknown
        obtain ⟨value, hvalue⟩ := Option.isSome_iff_exists.mp hsome
        rw [hvalue, Option.some_or, Option.some_or]
      · rw [List.lookup_cons, beq_eq_false_iff_ne.mpr heq]
    · rw [List.append_assoc, List.singleton_append]

/-- A key has a value in a list of pairs if it is one of their keys, and then the first that comes
with it. -/
theorem lookup_eq_some_iff : added.lookup key = some value ↔
    ∃ before rest, added = before ++ (key, value) :: rest ∧ key ∉ before.map (·.1) := by
  have hfirst : ∀ before : List (κ × ν),
      (∀ entry ∈ before, (key != entry.1) = true) ↔ key ∉ before.map (·.1) := by
    intro before
    constructor
    · intro hne hmem
      obtain ⟨entry, hentry, rfl⟩ := List.mem_map.mp hmem
      exact bne_iff_ne.mp (hne entry hentry) rfl
    · intro hnot entry hentry
      exact bne_iff_ne.mpr fun heq => hnot (List.mem_map.mpr ⟨entry, hentry, heq.symm⟩)
  rw [List.lookup_eq_some_iff]
  simp only [hfirst]

end Lists

variable [Inhabited ν]

/-- The pairs that are visited, in order. -/
def visited (map : OrderedMap κ ν) : List (κ × ν) :=
  let collect : StateM (List (κ × ν)) Unit :=
    map.iter fun key value => modify (· ++ [(key, value)])
  (collect.run []).2

def Call.onMap : Call κ ν → OrderedMap κ ν → Answer κ ν × OrderedMap κ ν
  | .add key value, map => ((.added (map.add key value).1), (map.add key value).2)
  | .get key, map => (.found (map.get? key), map)
  | .contains key, map => (.holds (map.contains key), map)
  | .size, map => (.count map.size, map)
  | .keys, map => (.keys map.keys, map)
  | .values, map => (.values map.values, map)
  | .iterate, map => (.visited map.visited, map)

/-- The list that a map stands for. -/
def entries (map : OrderedMap κ ν) : List (κ × ν) :=
  map.keys.map fun key => (key, map.store.value key)

variable {map : OrderedMap κ ν} {key : κ}

theorem keys_entries (map : OrderedMap κ ν) : map.entries.map (·.1) = map.keys := by
  simp [entries, Function.comp_def]

theorem values_eq (map : OrderedMap κ ν) : map.values = map.entries.map (·.2) := by
  simp [values, entries, keys, Function.comp_def]

theorem iter_eq {m : Type → Type} [Monad m] (map : OrderedMap κ ν) (visit : κ → ν → m Unit) :
    map.iter visit = map.entries.forM fun entry => visit entry.1 entry.2 := by
  unfold iter entries keys
  induction map.order with
  | nil => rfl
  | cons first rest ih =>
    change (visit first (map.store.value first) >>= fun _ => List.forM rest _) =
      (visit first (map.store.value first) >>= fun _ => List.forM (rest.map _) _)
    rw [ih]

theorem visited_eq (map : OrderedMap κ ν) : map.visited = map.entries := by
  have hcollect : ∀ (entries visited : List (κ × ν)),
      ((entries.forM fun entry => modify (· ++ [entry]) : StateM (List (κ × ν)) Unit).run
        visited).2 = visited ++ entries := by
    intro entries
    induction entries with
    | nil => exact fun visited => (List.append_nil visited).symm
    | cons first rest ih =>
      intro visited
      rw [List.append_cons]
      exact ih (visited ++ [first])
  unfold visited
  rw [iter_eq]
  exact hcollect map.entries []

theorem lookup_entries (h : map.Agrees) (key : κ) : map.entries.lookup key = map.get? key := by
  have hpairs : ∀ keys : List κ,
      (keys.map fun key => (key, map.store.value key)).lookup key =
        if key ∈ keys then some (map.store.value key) else none := by
    intro keys
    induction keys with
    | nil => rfl
    | cons first rest ih =>
      by_cases heq : key = first
      · simp [heq]
      · simp [List.lookup_cons, beq_eq_false_iff_ne.mpr heq, heq, ih]
  rw [entries, hpairs]
  have hmem := h.mem_keys_iff key
  unfold contains Dictionary.contains at hmem
  unfold get? Dictionary.value
  cases hget : map.store.get? key with
  | none =>
    rw [hget] at hmem
    simp [hmem]
  | some value =>
    rw [hget] at hmem
    simp [hmem]

theorem mem_entries_iff (h : map.Agrees) {value : ν} :
    (key, value) ∈ map.entries ↔ map.get? key = some value := by
  have hkey : key ∈ map.keys ↔ (map.store.get? key).isSome = true := h.mem_keys_iff key
  rw [entries, List.mem_map]
  constructor
  · rintro ⟨other, hmem, heq⟩
    obtain ⟨rfl, rfl⟩ := Prod.mk.inj heq
    obtain ⟨value, hvalue⟩ := Option.isSome_iff_exists.mp (hkey.mp hmem)
    simp [get?, Dictionary.value, hvalue]
  · intro hvalue
    have hget : map.store.get? key = some value := hvalue
    exact ⟨key, hkey.mpr (by simp [hget]), by simp [Dictionary.value, hget]⟩

/-- What a map stands for pairs its keys with what they have in it. -/
theorem entries_eq_get? (h : map.Agrees) :
    (map.entries.map fun entry => (entry.1, some entry.2)) =
      (map.keys.map fun key => (key, map.get? key)) := by
  rw [← keys_entries, List.map_map]
  refine List.map_congr_left fun entry hentry => ?_
  simp [(mem_entries_iff h).mp hentry]

theorem entries_add (hnew : key ∉ map.keys) (value : ν) :
    entries ⟨map.order ++ [key], map.store.set key value⟩ = map.entries ++ [(key, value)] := by
  unfold entries keys at *
  rw [List.map_append, List.map_singleton, Dictionary.value_set, if_pos rfl]
  refine congrArg (· ++ _) (List.map_congr_left fun other hother => ?_)
  have hne : other ≠ key := fun heq => hnew (heq ▸ hother)
  rw [Dictionary.value_set, if_neg hne]

/-- One call: the map does what the list does, and its keys and values stay together. -/
theorem Call.onMap_refines (call : Call κ ν) (h : map.Agrees) :
    (call.onMap map).2.Agrees ∧
      call.onList map.entries = ((call.onMap map).1, (call.onMap map).2.entries) := by
  have hmem : ∀ key, key ∈ map.entries.map (·.1) ↔ map.contains key = true := by
    intro key
    rw [keys_entries, h.mem_keys_iff]
  cases call with
  | add key value =>
    refine ⟨h.add key value, ?_⟩
    unfold onList onMap
    cases hkey : map.contains key with
    | true => simp [addFirst, (hmem key).mpr hkey, add_of_contains hkey]
    | false =>
      have hnew : key ∉ map.entries.map (·.1) := by simp [hmem, hkey]
      have hnew' : key ∉ map.keys := by rwa [keys_entries] at hnew
      simp only [addFirst, hnew, if_false, add_of_not_contains hkey, entries_add hnew',
        not_false_eq_true, decide_true]
  | get key => exact ⟨h, by simp only [onList, onMap, lookup_entries h]⟩
  | contains key => exact ⟨h, by simp [onList, onMap, hmem]⟩
  | size => exact ⟨h, by simp [onList, onMap, entries, OrderedMap.size, OrderedMap.keys]⟩
  | keys => exact ⟨h, by simp only [onList, onMap, keys_entries]⟩
  | values => exact ⟨h, by simp only [onList, onMap, values_eq]⟩
  | iterate => exact ⟨h, by simp only [onList, onMap, visited_eq]⟩

theorem run_refines (calls : List (Call κ ν)) (h : map.Agrees) :
    (run Call.onMap calls map).2.Agrees ∧
      run Call.onList calls map.entries =
        ((run Call.onMap calls map).1, (run Call.onMap calls map).2.entries) := by
  induction calls generalizing map with
  | nil => exact ⟨h, rfl⟩
  | cons call rest ih =>
    obtain ⟨hagrees, hcall⟩ := call.onMap_refines h
    obtain ⟨hafter, hrest⟩ := ih hagrees
    exact ⟨hafter, by simp only [run, hcall, hrest]⟩

/-- After any calls on the empty map the answers have been those of a list of pairs to which new
keys are added at the end, and the map stands for that list. No key stands twice, and the keys are
those of the dictionary. They are the keys of all additions, each at its first place; a key has
the value of its first addition, and none exactly if it was never added. The next addition is
accepted exactly if its key is new. It then extends the keys and the values alike, and otherwise
it changes nothing. The values and the pairs that are visited are those of the keys, in their
order. -/
theorem keeps_first_additions (calls : List (Call κ ν)) :
    let map := (run Call.onMap calls (empty : OrderedMap κ ν)).2
    let added := calls.filterMap Call.addition?
    run Call.onList calls [] = ((run Call.onMap calls empty).1, map.entries) ∧
    (map.order.Nodup ∧ ∀ key, key ∈ map.order ↔ key ∈ map.store.keys) ∧
    map.keys = uniq (added.map (·.1)) ∧
    (∀ key value, map.get? key = some value ↔
      ∃ before rest, added = before ++ (key, value) :: rest ∧ key ∉ before.map (·.1)) ∧
    (∀ key, map.get? key = none ↔ key ∉ added.map (·.1)) ∧
    (∀ key value, key ∉ added.map (·.1) → (map.add key value).1 = true ∧
      (map.add key value).2.keys = map.keys ++ [key] ∧
      (map.add key value).2.get? = Function.update map.get? key (some value)) ∧
    (∀ key value, key ∈ added.map (·.1) → map.add key value = (false, map)) ∧
    map.values.map some = map.keys.map map.get? ∧
    (map.entries.map fun entry => (entry.1, some entry.2)) =
      (map.keys.map fun key => (key, map.get? key)) ∧
    ∀ (m : Type → Type) [Monad m] (visit : κ → ν → m Unit),
      map.iter visit = map.entries.forM fun entry => visit entry.1 entry.2 := by
  intro map added
  obtain ⟨hagrees, hrun⟩ := run_refines calls (agrees_empty : (empty : OrderedMap κ ν).Agrees)
  have hentries : map.entries = added.foldl addFirst [] := by
    rw [← run_onList_snd calls [], show ([] : List (κ × ν)) = entries empty from rfl, hrun]
  have hkeys : map.keys = uniq (added.map (·.1)) := by
    rw [← keys_entries, hentries]
    exact keys_foldl_addFirst added (by simp [Dictionary.contains, Dictionary.get?_empty])
  have hget : ∀ key, map.get? key = added.lookup key := by
    intro key
    rw [← lookup_entries hagrees, hentries, lookup_foldl_addFirst, List.nil_append]
  have hcontains : ∀ key, map.contains key = true ↔ key ∈ added.map (·.1) := by
    intro key
    rw [← hagrees.mem_keys_iff, hkeys, uniq_eq_eraseDups, List.mem_eraseDups]
  refine ⟨hrun, ⟨hagrees.nodup, ?_⟩, hkeys, ?_, ?_, ?_, ?_, ?_, entries_eq_get? hagrees, ?_⟩
  · exact fun key => (hagrees.mem_keys_iff key).trans Dictionary.mem_keys_iff.symm
  · intro key value
    rw [hget, lookup_eq_some_iff]
  · intro key
    rw [← hcontains]
    exact Option.not_isSome_iff_eq_none.symm
  · intro key value hnew
    have hkey : map.contains key = false := by rwa [← Bool.not_eq_true, hcontains]
    rw [add_of_not_contains hkey]
    refine ⟨rfl, rfl, funext fun other => ?_⟩
    rw [get?, Dictionary.get?_set, Function.update_apply]
    rfl
  · exact fun key value hknown => add_of_contains ((hcontains key).mpr hknown) value
  · have hpairs := congrArg (List.map (·.2)) (entries_eq_get? hagrees)
    rw [List.map_map, List.map_map] at hpairs
    rw [values_eq, List.map_map]
    exact hpairs
  · exact fun m _ visit => iter_eq map visit

end Typeflow.OrderedMap
