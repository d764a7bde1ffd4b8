import Mathlib.Data.List.Induction
import Mathlib.Data.List.Nodup
import Typeflow.Sequence

/-!
Sequences without an item, and without repetitions. The loop that keeps items remembers which ones
it has kept; it keeps the first of each kind.
-/

namespace Typeflow

variable {α : Type}

theorem removeAt_append (before after : List α) (item : α) :
    removeAt (before ++ item :: after) before.length = .ok (before ++ after) := by
  simp [removeAt]

theorem getElem?_concat_eq_some {xs : List α} {x y : α} {place : Nat} :
    (xs ++ [x])[place]? = some y ↔
      xs[place]? = some y ∨ place = xs.length ∧ x = y := by
  rcases Nat.lt_trichotomy place xs.length with hlt | rfl | hlt
  · rw [List.getElem?_append_left hlt]
    simp [Nat.ne_of_lt hlt]
  · simp
  · rw [List.getElem?_eq_none (by simp; omega), List.getElem?_eq_none (Nat.le_of_lt hlt)]
    simp [Nat.ne_of_gt hlt]

variable [DecidableEq α]

theorem eraseDups_concat (xs : List α) (x : α) :
    (xs ++ [x]).eraseDups = if x ∈ xs then xs.eraseDups else xs.eraseDups ++ [x] := by
  rw [List.eraseDups_append]
  by_cases hx : x ∈ xs
  · simp [List.removeAll, hx]
  · simp [List.removeAll, hx, List.eraseDups_cons]

/-- The loop in the middle of its work: it has seen the items before and kept the first of
each. -/
theorem keepFirst_eraseDups {seen : Dictionary α Unit} (before rest : List α)
    (hseen : ∀ item, seen.contains item = true ↔ item ∈ before) :
    keepFirst seen before.eraseDups rest = (before ++ rest).eraseDups := by
  induction rest generalizing seen before with
  | nil => simp [keepFirst]
  | cons item rest ih =>
    rw [keepFirst, List.append_cons before item rest]
    by_cases hitem : item ∈ before
    · have hsame : (before ++ [item]).eraseDups = before.eraseDups := by
        rw [eraseDups_concat, if_pos hitem]
      rw [if_pos ((hseen item).mpr hitem), ← hsame]
      refine ih _ fun other => ?_
      rw [hseen, List.mem_append, List.mem_singleton]
      exact ⟨Or.inl, fun h => h.elim id fun heq => heq ▸ hitem⟩
    · have hmore : (before ++ [item]).eraseDups = before.eraseDups ++ [item] := by
        rw [eraseDups_concat, if_neg hitem]
      rw [if_neg (mt (hseen item).mp hitem), ← hmore]
      refine ih _ fun other => ?_
      rw [Dictionary.contains_set, hseen, List.mem_append, List.mem_singleton]
      exact or_comm

theorem uniq_eq_eraseDups (items : List α) : uniq items = items.eraseDups :=
  keepFirst_eraseDups [] items (by simp [Dictionary.contains, Dictionary.get?_empty])

theorem uniq_of_nodup {items : List α} (h : items.Nodup) : uniq items = items := by
  rw [uniq_eq_eraseDups]
  induction items using List.reverseRecOn with
  | nil => rfl
  | append_singleton before last ih =>
    rw [List.nodup_append_comm, List.singleton_append, List.nodup_cons] at h
    rw [eraseDups_concat, if_neg h.1, ih h.2]

end Typeflow
