/-!
Results of functions that can fail. A rule for each way of putting such functions together says
what holds of a result, if there is one.
-/

namespace Typeflow

variable {ε ε' α β : Type}

/-- If there is a result, it has the property. -/
def Returns (x : Except ε α) (holds : α → Prop) : Prop := ∀ value, x = .ok value → holds value

namespace Returns

variable {x : Except ε α} {holds holds' : α → Prop}

theorem ok {value : α} (h : holds value) : Returns (.ok value : Except ε α) holds := by
  rintro _ ⟨⟩
  exact h

theorem error {reason : ε} : Returns (.error reason) holds := nofun

theorem any : Returns x fun _ => True := fun _ _ => trivial

theorem mono (h : Returns x holds) (himp : ∀ value, holds value → holds' value) :
    Returns x holds' :=
  fun value hvalue => himp value (h value hvalue)

theorem bind {f : α → Except ε β} {holds : β → Prop} {middle : α → Prop} (hx : Returns x middle)
    (hf : ∀ value, middle value → Returns (f value) holds) : Returns (x >>= f) holds := by
  cases x with
  | error reason => exact error
  | ok value => exact hf value (hx value rfl)

theorem mapError {f : ε → ε'} (h : Returns x holds) : Returns (x.mapError f) holds := by
  cases x with
  | error reason => exact error
  | ok value => exact ok (h value rfl)

theorem mapM {f : β → Except ε α} {xs : List β} (h : ∀ x ∈ xs, Returns (f x) holds) :
    Returns (xs.mapM f) fun values => ∀ value ∈ values, holds value := by
  induction xs with
  | nil => exact ok (by simp)
  | cons first rest ih =>
    obtain ⟨hfirst, hrest⟩ := List.forall_mem_cons.mp h
    rw [List.mapM_cons]
    refine bind hfirst fun value hvalue => bind (ih hrest) fun values hvalues => ?_
    exact ok (List.forall_mem_cons.mpr ⟨hvalue, hvalues⟩)

end Returns

end Typeflow
