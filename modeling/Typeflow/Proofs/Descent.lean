import Typeflow.Failure

/-!
Descents with a limit on their depth. A descent that would have to go deeper than it may gives up
with a fault. If it does not give up, a greater limit changes nothing. So once a limit suffices
the descent is the same for all greater ones, and the limit is not what ends it.
-/

namespace Typeflow

variable {ε σ α β : Type}

/-- The first run gives up with the failure `stop`, or the second run does the same as the
first. -/
def Deepens (stop : ε) (x y : EStateM ε σ α) : Prop :=
  ∀ s, (∃ s', x s = .error stop s') ∨ x s = y s

namespace Deepens

variable {stop : ε} {x y : EStateM ε σ α}

theorem refl (x : EStateM ε σ α) : Deepens stop x x := fun _ => Or.inr rfl

theorem giveUp : Deepens stop (MonadExcept.throw stop) y := fun s => Or.inl ⟨s, rfl⟩

theorem bind {f g : α → EStateM ε σ β} (h : Deepens stop x y)
    (hfg : ∀ value, Deepens stop (f value) (g value)) : Deepens stop (x >>= f) (y >>= g) := by
  intro s
  simp only [Bind.bind, EStateM.bind]
  rcases h s with ⟨s', hx⟩ | hxy
  · exact Or.inl ⟨s', by rw [hx]⟩
  · rw [← hxy]
    cases x s with
    | ok value s' => exact hfg value s'
    | error failure s' => exact Or.inr rfl

theorem mapM {f g : α → EStateM ε σ β} (xs : List α) (hfg : ∀ x, Deepens stop (f x) (g x)) :
    Deepens stop (xs.mapM f) (xs.mapM g) := by
  induction xs with
  | nil => exact refl _
  | cons first rest ih =>
    rw [List.mapM_cons, List.mapM_cons]
    exact bind (hfg first) fun _ => bind ih fun _ => refl _

theorem anyM {f g : α → EStateM ε σ Bool} (xs : List α) (hfg : ∀ x, Deepens stop (f x) (g x)) :
    Deepens stop (xs.anyM f) (xs.anyM g) := by
  induction xs with
  | nil => exact refl _
  | cons first rest ih =>
    rw [List.anyM_cons, List.anyM_cons]
    refine bind (hfg first) fun answer => ?_
    cases answer with
    | true => exact refl _
    | false => exact ih

theorem allM {f g : α → EStateM ε σ Bool} (xs : List α) (hfg : ∀ x, Deepens stop (f x) (g x)) :
    Deepens stop (xs.allM f) (xs.allM g) := by
  induction xs with
  | nil => exact refl _
  | cons first rest ih =>
    rw [List.allM_cons, List.allM_cons]
    refine bind (hfg first) fun answer => ?_
    cases answer with
    | true => exact ih
    | false => exact refl _

theorem forM {f g : α → EStateM ε σ PUnit} (xs : List α) (hfg : ∀ x, Deepens stop (f x) (g x)) :
    Deepens stop (xs.forM f) (xs.forM g) := by
  induction xs with
  | nil => exact refl _
  | cons first rest ih => exact bind (hfg first) fun _ => ih

end Deepens

/-- From some depth on the descent ends in this way, whatever its limit is. -/
def Terminates (descend : Nat → EStateM ε σ α) (s : σ) (ending : EStateM.Result ε σ α) : Prop :=
  ∃ bound, ∀ depth, bound ≤ depth → descend depth s = ending

theorem terminates_of_deepens {stop : ε} {descend : Nat → EStateM ε σ α}
    (hdeepens : ∀ depth, Deepens stop (descend depth) (descend (depth + 1))) {bound : Nat} {s : σ}
    (hbound : ∀ s', descend bound s ≠ .error stop s') :
    Terminates descend s (descend bound s) := by
  have hmore : ∀ more, descend (bound + more) s = descend bound s := by
    intro more
    induction more with
    | zero => rfl
    | succ more ih =>
      rcases hdeepens (bound + more) s with ⟨s', hstop⟩ | hsame
      · rw [ih] at hstop
        exact absurd hstop (hbound s')
      · rw [← Nat.add_assoc, ← hsame, ih]
  refine ⟨bound, fun depth hdepth => ?_⟩
  rw [← hmore (depth - bound), show bound + (depth - bound) = depth by omega]

end Typeflow
