import Mathlib.Data.List.Forall2
import Typeflow.Proofs.Ends

/-!
Two runs side by side. They end together if both of them end in a value or both in a failure, and
what they end in and the states that they leave belong together. They are in step if moreover they
end in the same value or in the same failure. Such a statement is about two programs and two
states at once, and the rules below follow the steps that both programs make together.
-/

namespace Typeflow

variable {ε σ τ α α' β β' : Type}

/-- Started in `s` and in `t`, both runs end in values, with `good` of them and of the two states,
or both end in failures, with `bad` of them and of the two states. -/
inductive Together (x : EStateM ε σ α) (y : EStateM ε τ α') (s : σ) (t : τ)
    (good : α → α' → σ → τ → Prop) (bad : ε → ε → σ → τ → Prop) : Prop
  | ok {value : α} {value' : α'} {s' : σ} {t' : τ} :
      x s = .ok value s' → y t = .ok value' t' → good value value' s' t' →
        Together x y s t good bad
  | error {failure failure' : ε} {s' : σ} {t' : τ} :
      x s = .error failure s' → y t = .error failure' t' → bad failure failure' s' t' →
      Together x y s t good bad

namespace Together

variable {x : EStateM ε σ α} {y : EStateM ε τ α'} {s : σ} {t : τ}
  {good : α → α' → σ → τ → Prop} {bad : ε → ε → σ → τ → Prop}

theorem pure {value : α} {value' : α'} (h : good value value' s t) :
    Together (Pure.pure value) (Pure.pure value') s t good bad := .ok rfl rfl h

theorem throw {failure failure' : ε} (h : bad failure failure' s t) :
    Together (MonadExcept.throw failure) (MonadExcept.throw failure') s t good bad :=
  .error rfl rfl h

theorem mono {good' : α → α' → σ → τ → Prop} {bad' : ε → ε → σ → τ → Prop}
    (h : Together x y s t good bad)
    (hgood : ∀ value value' s' t', good value value' s' t' → good' value value' s' t')
    (hbad : ∀ failure failure' s' t', bad failure failure' s' t' → bad' failure failure' s' t') :
    Together x y s t good' bad' := by
  cases h with
  | ok hx hy h => exact .ok hx hy (hgood _ _ _ _ h)
  | error hx hy h => exact .error hx hy (hbad _ _ _ _ h)

theorem of_total {left : α → σ → Prop} {right : α' → τ → Prop}
    (h : Ends x s left fun _ _ => False) (h' : Ends y t right fun _ _ => False) :
    Together x y s t (fun value value' s' t' => left value s' ∧ right value' t') bad := by
  obtain ⟨value, s', hx, hleft⟩ := h.exists_ok
  obtain ⟨value', t', hy, hright⟩ := h'.exists_ok
  exact .ok hx hy ⟨hleft, hright⟩

/-- What is known of the two runs, together with what is known of the first by itself. -/
theorem and_left {good' : α → σ → Prop} {bad' : ε → σ → Prop} (h : Together x y s t good bad)
    (h' : Ends x s good' bad') :
    Together x y s t (fun value value' s' t' => good' value s' ∧ good value value' s' t')
      fun failure failure' s' t' => bad' failure s' ∧ bad failure failure' s' t' := by
  cases h with
  | ok hx hy h => exact .ok hx hy ⟨h'.good_of_eq hx, h⟩
  | error hx hy h => exact .error hx hy ⟨h'.bad_of_eq hx, h⟩

theorem bind {f : α → EStateM ε σ β} {g : α' → EStateM ε τ β'} {middle : α → α' → σ → τ → Prop}
    {good : β → β' → σ → τ → Prop} (h : Together x y s t middle bad)
    (hfg : ∀ value value' s' t', middle value value' s' t' →
      Together (f value) (g value') s' t' good bad) :
    Together (x >>= f) (y >>= g) s t good bad := by
  cases h with
  | @ok value value' s' t' hx hy hmiddle =>
    have hf : (x >>= f) s = f value s' := by simp only [Bind.bind, EStateM.bind, hx]
    have hg : (y >>= g) t = g value' t' := by simp only [Bind.bind, EStateM.bind, hy]
    cases hfg value value' s' t' hmiddle with
    | ok hx' hy' hgood => exact .ok (hf.trans hx') (hg.trans hy') hgood
    | error hx' hy' hbad => exact .error (hf.trans hx') (hg.trans hy') hbad
  | @error failure failure' s' t' hx hy hbad =>
    have hf : (x >>= f) s = .error failure s' := by simp only [Bind.bind, EStateM.bind, hx]
    have hg : (y >>= g) t = .error failure' t' := by simp only [Bind.bind, EStateM.bind, hy]
    exact .error hf hg hbad

/-- Two loops end together if they meet elements that belong together. -/
theorem forM {f : α → EStateM ε σ PUnit} {g : α' → EStateM ε τ PUnit} {related : α → α' → Prop}
    (invariant : σ → τ → Prop) {xs : List α} {ys : List α'} (hxy : List.Forall₂ related xs ys)
    (step : ∀ x y, related x y → ∀ s t, invariant s t →
      Together (f x) (g y) s t (fun _ _ => invariant) bad)
    (s : σ) (t : τ) (h : invariant s t) :
    Together (xs.forM f) (ys.forM g) s t (fun _ _ => invariant) bad := by
  induction hxy generalizing s t with
  | nil => exact pure h
  | cons hfirst _ ih => exact bind (step _ _ hfirst s t h) fun _ _ s' t' h' => ih s' t' h'

end Together

/-- Started in `s` and in `t`, the two runs end in the same value, with `good` of it and of the
two states, or in the same failure, with `bad` of the two states. -/
inductive InStep (x : EStateM ε σ α) (y : EStateM ε τ α) (s : σ) (t : τ)
    (good : α → σ → τ → Prop) (bad : σ → τ → Prop) : Prop
  | ok {value : α} {s' : σ} {t' : τ} :
      x s = .ok value s' → y t = .ok value t' → good value s' t' → InStep x y s t good bad
  | error {failure : ε} {s' : σ} {t' : τ} :
      x s = .error failure s' → y t = .error failure t' → bad s' t' → InStep x y s t good bad

namespace InStep

variable {x : EStateM ε σ α} {y : EStateM ε τ α} {s : σ} {t : τ}
  {good : α → σ → τ → Prop} {bad : σ → τ → Prop}

theorem pure {value : α} (h : good value s t) :
    InStep (Pure.pure value : EStateM ε σ α) (Pure.pure value) s t good bad := .ok rfl rfl h

theorem throw {failure : ε} (h : bad s t) :
    InStep (MonadExcept.throw failure : EStateM ε σ α) (MonadExcept.throw failure) s t good bad :=
  .error rfl rfl h

theorem mono {good' : α → σ → τ → Prop} {bad' : σ → τ → Prop} (h : InStep x y s t good bad)
    (hgood : ∀ value s' t', good value s' t' → good' value s' t')
    (hbad : ∀ s' t', bad s' t' → bad' s' t') : InStep x y s t good' bad' := by
  cases h with
  | ok hx hy h => exact .ok hx hy (hgood _ _ _ h)
  | error hx hy h => exact .error hx hy (hbad _ _ h)

theorem iff_together : InStep x y s t good bad ↔
    Together x y s t (fun value value' s' t' => value = value' ∧ good value s' t')
      fun failure failure' s' t' => failure = failure' ∧ bad s' t' := by
  constructor
  · intro h
    cases h with
    | ok hx hy h => exact .ok hx hy ⟨rfl, h⟩
    | error hx hy h => exact .error hx hy ⟨rfl, h⟩
  · intro h
    cases h with
    | ok hx hy h =>
      obtain ⟨rfl, h⟩ := h
      exact .ok hx hy h
    | error hx hy h =>
      obtain ⟨rfl, h⟩ := h
      exact .error hx hy h

theorem bind {f : α → EStateM ε σ β} {g : α → EStateM ε τ β} {middle : α → σ → τ → Prop}
    {good : β → σ → τ → Prop} (h : InStep x y s t middle bad)
    (hfg : ∀ value s' t', middle value s' t' → InStep (f value) (g value) s' t' good bad) :
    InStep (x >>= f) (y >>= g) s t good bad := by
  refine iff_together.mpr (Together.bind (iff_together.mp h) ?_)
  rintro value _ s' t' ⟨rfl, hmiddle⟩
  exact iff_together.mp (hfg value s' t' hmiddle)

end InStep

/-- Started in related states, the two runs are in step and end in related states. -/
def Lockstep (related : σ → τ → Prop) (x : EStateM ε σ α) (y : EStateM ε τ α) : Prop :=
  ∀ s t, related s t → InStep x y s t (fun _ => related) related

namespace Lockstep

variable {related : σ → τ → Prop} {x x' : EStateM ε σ α} {y y' : EStateM ε τ α}

theorem pure (value : α) :
    Lockstep related (Pure.pure value : EStateM ε σ α) (Pure.pure value) :=
  fun _ _ h => InStep.pure h

theorem throw (failure : ε) :
    Lockstep related (MonadExcept.throw failure : EStateM ε σ α) (MonadExcept.throw failure) :=
  fun _ _ h => InStep.throw h

theorem bind {f : α → EStateM ε σ β} {g : α → EStateM ε τ β} (h : Lockstep related x y)
    (hfg : ∀ value, Lockstep related (f value) (g value)) :
    Lockstep related (x >>= f) (y >>= g) :=
  fun s t hst => InStep.bind (h s t hst) fun value s' t' h' => hfg value s' t' h'

theorem ite {condition : Prop} [Decidable condition] (h : Lockstep related x y)
    (h' : Lockstep related x' y') :
    Lockstep related (if condition then x else x') (if condition then y else y') := by
  split
  · exact h
  · exact h'

theorem bounded {f : Nat → EStateM ε σ α} {g : Nat → EStateM ε τ α} {bound : σ → Nat}
    {bound' : τ → Nat} (h : ∀ n, Lockstep related (f n) (g n))
    (hbound : ∀ s t, related s t → bound s = bound' t) :
    Lockstep related (fun s => f (bound s) s) (fun t => g (bound' t) t) := by
  intro s t hst
  have hrun := h (bound' t) s t hst
  cases hrun with
  | ok hx hy hgood =>
    rw [← hbound s t hst] at hx
    exact .ok hx hy hgood
  | error hx hy hbad =>
    rw [← hbound s t hst] at hx
    exact .error hx hy hbad

theorem mapM {f : α → EStateM ε σ β} {g : α → EStateM ε τ β} (xs : List α)
    (hfg : ∀ x, Lockstep related (f x) (g x)) : Lockstep related (xs.mapM f) (xs.mapM g) := by
  induction xs with
  | nil => exact pure []
  | cons first rest ih =>
    rw [List.mapM_cons, List.mapM_cons]
    exact bind (hfg first) fun _ => bind ih fun _ => pure _

theorem anyM {f : α → EStateM ε σ Bool} {g : α → EStateM ε τ Bool} (xs : List α)
    (hfg : ∀ x, Lockstep related (f x) (g x)) : Lockstep related (xs.anyM f) (xs.anyM g) := by
  induction xs with
  | nil => exact pure false
  | cons first rest ih =>
    rw [List.anyM_cons, List.anyM_cons]
    refine bind (hfg first) fun answer => ?_
    cases answer with
    | true => exact pure true
    | false => exact ih

theorem allM {f : α → EStateM ε σ Bool} {g : α → EStateM ε τ Bool} (xs : List α)
    (hfg : ∀ x, Lockstep related (f x) (g x)) : Lockstep related (xs.allM f) (xs.allM g) := by
  induction xs with
  | nil => exact pure true
  | cons first rest ih =>
    rw [List.allM_cons, List.allM_cons]
    refine bind (hfg first) fun answer => ?_
    cases answer with
    | true => exact ih
    | false => exact pure false

theorem forM {f : α → EStateM ε σ PUnit} {g : α → EStateM ε τ PUnit} (xs : List α)
    (hfg : ∀ x, Lockstep related (f x) (g x)) : Lockstep related (xs.forM f) (xs.forM g) := by
  induction xs with
  | nil => exact pure _
  | cons first rest ih => exact bind (hfg first) fun _ => ih

end Lockstep

end Typeflow
