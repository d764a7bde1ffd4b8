import Typeflow.Failure

/-!
How a run of the engine ends. Every part of the engine ends either in a value or in a failure, and
in both cases it leaves a state behind, because what was done before a failure stays. A statement
about such a run says what holds of the value and the state in the first case, and what holds of
the failure and the state in the second. The rules below follow the steps of the run.
-/

namespace Typeflow

variable {ε σ α β : Type}

/-- Started in `s`, the run ends in a value and a state with `good`, or in a failure and a state
with `bad`. -/
def Ends (x : EStateM ε σ α) (s : σ) (good : α → σ → Prop) (bad : ε → σ → Prop) : Prop :=
  match x s with
  | .ok value s' => good value s'
  | .error failure s' => bad failure s'

namespace Ends

variable {x : EStateM ε σ α} {s s' : σ} {good : α → σ → Prop} {bad : ε → σ → Prop}

theorem of_eq_ok {value : α} (hx : x s = .ok value s') (h : good value s') :
    Ends x s good bad := by
  unfold Ends
  rw [hx]
  exact h

theorem of_eq_error {failure : ε} (hx : x s = .error failure s') (h : bad failure s') :
    Ends x s good bad := by
  unfold Ends
  rw [hx]
  exact h

theorem good_of_eq {value : α} (h : Ends x s good bad) (hx : x s = .ok value s') :
    good value s' := by
  unfold Ends at h
  rw [hx] at h
  exact h

theorem bad_of_eq {failure : ε} (h : Ends x s good bad) (hx : x s = .error failure s') :
    bad failure s' := by
  unfold Ends at h
  rw [hx] at h
  exact h

instance [∀ value s', Decidable (good value s')] [∀ failure s', Decidable (bad failure s')] :
    Decidable (Ends x s good bad) :=
  match hx : x s with
  | .ok value s' =>
    decidable_of_iff (good value s') ⟨fun h => of_eq_ok hx h, fun h => h.good_of_eq hx⟩
  | .error failure s' =>
    decidable_of_iff (bad failure s') ⟨fun h => of_eq_error hx h, fun h => h.bad_of_eq hx⟩

theorem exists_ok (h : Ends x s good fun _ _ => False) :
    ∃ value s', x s = .ok value s' ∧ good value s' := by
  cases hx : x s with
  | ok value s' => exact ⟨value, s', rfl, h.good_of_eq hx⟩
  | error failure s' => exact (h.bad_of_eq hx).elim

theorem exists_error (h : Ends x s (fun _ _ => False) bad) :
    ∃ failure s', x s = .error failure s' ∧ bad failure s' := by
  cases hx : x s with
  | ok value s' => exact (h.good_of_eq hx).elim
  | error failure s' => exact ⟨failure, s', rfl, h.bad_of_eq hx⟩

theorem eq_ok {value : α} (h : Ends x s (fun v t => v = value ∧ t = s') fun _ _ => False) :
    x s = .ok value s' := by
  obtain ⟨v, t, hx, rfl, rfl⟩ := h.exists_ok
  exact hx

/-- A run that cannot fail has whatever is said of its failures. -/
theorem of_total (h : Ends x s good fun _ _ => False) : Ends x s good bad := by
  obtain ⟨value, s', hx, hgood⟩ := h.exists_ok
  exact of_eq_ok hx hgood

theorem trivial : Ends x s (fun _ _ => True) fun _ _ => True := by
  unfold Ends
  split <;> exact True.intro

theorem congr {y : EStateM ε σ α} (hxy : x s = y s) (h : Ends y s good bad) :
    Ends x s good bad := by
  unfold Ends at h ⊢
  rw [hxy]
  exact h

theorem mono {good' : α → σ → Prop} {bad' : ε → σ → Prop} (h : Ends x s good bad)
    (hgood : ∀ value s', good value s' → good' value s')
    (hbad : ∀ failure s', bad failure s' → bad' failure s') : Ends x s good' bad' := by
  cases hx : x s with
  | ok value s' => exact of_eq_ok hx (hgood value s' (h.good_of_eq hx))
  | error failure s' => exact of_eq_error hx (hbad failure s' (h.bad_of_eq hx))

theorem and {good' : α → σ → Prop} {bad' : ε → σ → Prop} (h : Ends x s good bad)
    (h' : Ends x s good' bad') :
    Ends x s (fun value s' => good value s' ∧ good' value s')
      fun failure s' => bad failure s' ∧ bad' failure s' := by
  cases hx : x s with
  | ok value s' => exact of_eq_ok hx ⟨h.good_of_eq hx, h'.good_of_eq hx⟩
  | error failure s' => exact of_eq_error hx ⟨h.bad_of_eq hx, h'.bad_of_eq hx⟩

/-- The ending of a run, together with the run that it is the ending of. -/
theorem record (h : Ends x s good bad) :
    Ends x s (fun value s' => x s = .ok value s' ∧ good value s')
      fun failure s' => x s = .error failure s' ∧ bad failure s' := by
  cases hx : x s with
  | ok value s' => exact of_eq_ok hx ⟨rfl, h.good_of_eq hx⟩
  | error failure s' => exact of_eq_error hx ⟨rfl, h.bad_of_eq hx⟩

theorem pure {value : α} (h : good value s) : Ends (Pure.pure value) s good bad := h

theorem throw {failure : ε} (h : bad failure s) :
    Ends (MonadExcept.throw failure : EStateM ε σ α) s good bad := h

theorem bind {f : α → EStateM ε σ β} {middle : α → σ → Prop} {good : β → σ → Prop}
    (h : Ends x s middle bad)
    (hf : ∀ value s', middle value s' → Ends (f value) s' good bad) :
    Ends (x >>= f) s good bad := by
  cases hx : x s with
  | ok value s' =>
    have hrest := hf value s' (h.good_of_eq hx)
    unfold Ends at hrest ⊢
    simpa only [Bind.bind, EStateM.bind, hx] using hrest
  | error failure s' =>
    have hbad := h.bad_of_eq hx
    unfold Ends
    simpa only [Bind.bind, EStateM.bind, hx] using hbad

/-- The rest of a run starts where a first step with a known ending has left off. -/
theorem bind_of_ok {f : α → EStateM ε σ β} {good : β → σ → Prop} {value : α}
    (hx : x s = .ok value s') (h : Ends (f value) s' good bad) : Ends (x >>= f) s good bad := by
  have hfirst : Ends x s (fun v t => v = value ∧ t = s') bad := of_eq_ok hx ⟨rfl, rfl⟩
  refine bind hfirst ?_
  rintro _ _ ⟨rfl, rfl⟩
  exact h

theorem get_bind {f : σ → EStateM ε σ β} {good : β → σ → Prop} (h : Ends (f s) s good bad) :
    Ends (MonadState.get >>= f) s good bad := h

/-- What is left of the elements, together with the state, keeps the invariant. -/
theorem forM {f : α → EStateM ε σ PUnit} (invariant : List α → σ → Prop)
    (step : ∀ first rest s, invariant (first :: rest) s →
      Ends (f first) s (fun _ s' => invariant rest s') bad)
    (xs : List α) (s : σ) (h : invariant xs s) :
    Ends (xs.forM f) s (fun _ s' => invariant [] s') bad := by
  induction xs generalizing s with
  | nil => exact pure h
  | cons first rest ih => exact bind (step first rest s h) fun _ s' hs' => ih s' hs'

/-- A check of all elements: it passes if all of them hold, and otherwise it fails as one of them
does. -/
theorem forM_check {f : α → EStateM ε σ PUnit} {holds : α → Prop} {invariant : σ → Prop}
    {fails : α → ε → σ → Prop} (xs : List α)
    (step : ∀ x ∈ xs, ∀ s, invariant s →
      Ends (f x) s (fun _ s' => invariant s' ∧ holds x) (fails x))
    (s : σ) (h : invariant s) :
    Ends (xs.forM f) s (fun _ s' => invariant s' ∧ ∀ x ∈ xs, holds x)
      fun failure s' => ∃ x ∈ xs, fails x failure s' := by
  induction xs generalizing s with
  | nil => exact pure ⟨h, by simp⟩
  | cons first rest ih =>
    refine bind ((step first List.mem_cons_self s h).mono (fun _ _ h => h)
      fun _ _ hfails => ⟨first, List.mem_cons_self, hfails⟩) ?_
    intro _ s' hfirst
    refine (ih (fun x hx => step x (List.mem_cons_of_mem _ hx)) s' hfirst.1).mono ?_ ?_
    · intro _ s'' hrest
      exact ⟨hrest.1, List.forall_mem_cons.mpr ⟨hfirst.2, hrest.2⟩⟩
    · intro _ s'' hfails
      obtain ⟨x, hx, hfails⟩ := hfails
      exact ⟨x, List.mem_cons_of_mem _ hx, hfails⟩

theorem mapM {f : α → EStateM ε σ β} {g : α → β} {invariant : σ → Prop} (xs : List α)
    (step : ∀ x ∈ xs, ∀ s, invariant s →
      Ends (f x) s (fun value s' => value = g x ∧ invariant s') bad)
    (s : σ) (h : invariant s) :
    Ends (xs.mapM f) s (fun values s' => values = xs.map g ∧ invariant s') bad := by
  induction xs generalizing s with
  | nil => exact pure ⟨rfl, h⟩
  | cons first rest ih =>
    rw [List.mapM_cons]
    refine bind (step first List.mem_cons_self s h) ?_
    rintro _ s' ⟨rfl, hs'⟩
    refine bind (ih (fun x hx => step x (List.mem_cons_of_mem _ hx)) s' hs') ?_
    rintro _ s'' ⟨rfl, hs''⟩
    exact pure ⟨rfl, hs''⟩

theorem mapM_holds {f : α → EStateM ε σ β} {holds : α → Prop} {invariant : σ → Prop} (xs : List α)
    (step : ∀ x ∈ xs, ∀ s, invariant s →
      Ends (f x) s (fun _ s' => holds x ∧ invariant s') bad)
    (s : σ) (h : invariant s) :
    Ends (xs.mapM f) s (fun _ s' => (∀ x ∈ xs, holds x) ∧ invariant s') bad := by
  induction xs generalizing s with
  | nil => exact pure ⟨by simp, h⟩
  | cons first rest ih =>
    rw [List.mapM_cons]
    refine bind (step first List.mem_cons_self s h) ?_
    rintro _ s' ⟨hfirst, hs'⟩
    refine bind (ih (fun x hx => step x (List.mem_cons_of_mem _ hx)) s' hs') ?_
    rintro _ s'' ⟨hrest, hs''⟩
    exact pure ⟨List.forall_mem_cons.mpr ⟨hfirst, hrest⟩, hs''⟩

/-- A search that asks questions whose answers are known and that leave the state as it is. -/
theorem anyM_eq_ok {f : α → EStateM ε σ Bool} {answer : α → Bool} {xs : List α}
    (hf : ∀ x ∈ xs, f x s = .ok (answer x) s) : xs.anyM f s = .ok (xs.any answer) s := by
  induction xs with
  | nil => rfl
  | cons first rest ih =>
    obtain ⟨hfirst, hrest⟩ := List.forall_mem_cons.mp hf
    rw [List.anyM_cons, List.any_cons]
    apply eq_ok
    refine bind_of_ok hfirst ?_
    cases answer first with
    | true => exact pure ⟨rfl, rfl⟩
    | false => exact of_eq_ok (ih hrest) ⟨rfl, rfl⟩

/-- A search for an element that answers `true`: `yes` is known of such an element and `no` of
each of those that answered `false`. -/
theorem anyM {f : α → EStateM ε σ Bool} {yes no : α → Prop} {invariant : σ → Prop}
    (xs : List α)
    (step : ∀ x ∈ xs, ∀ s, invariant s →
      Ends (f x) s (fun answer s' => (if answer then yes x else no x) ∧ invariant s') bad)
    (s : σ) (h : invariant s) :
    Ends (xs.anyM f) s (fun answer s' =>
      (if answer then ∃ x ∈ xs, yes x else ∀ x ∈ xs, no x) ∧ invariant s') bad := by
  induction xs generalizing s with
  | nil => exact pure ⟨by simp, h⟩
  | cons first rest ih =>
    rw [List.anyM_cons]
    refine bind (step first List.mem_cons_self s h) ?_
    rintro answer s' ⟨hanswer, hs'⟩
    cases answer with
    | true => exact pure ⟨⟨first, List.mem_cons_self, hanswer⟩, hs'⟩
    | false =>
      refine (ih (fun x hx => step x (List.mem_cons_of_mem _ hx)) s' hs').mono ?_
        fun _ _ hbad => hbad
      rintro answer s'' ⟨hrest, hs''⟩
      refine ⟨?_, hs''⟩
      cases answer with
      | true =>
        obtain ⟨x, hx, hyes⟩ := hrest
        exact ⟨x, List.mem_cons_of_mem _ hx, hyes⟩
      | false =>
        intro x hx
        rcases List.mem_cons.mp hx with rfl | hx
        · exact hanswer
        · exact hrest x hx

/-- A check that goes on as long as the answers are `true`: `yes` is known of all elements if it
gets through, and `no` of the one that answered `false` otherwise. -/
theorem allM {f : α → EStateM ε σ Bool} {yes no : α → Prop} {invariant : σ → Prop}
    (xs : List α)
    (step : ∀ x ∈ xs, ∀ s, invariant s →
      Ends (f x) s (fun answer s' => (if answer then yes x else no x) ∧ invariant s') bad)
    (s : σ) (h : invariant s) :
    Ends (xs.allM f) s (fun answer s' =>
      (if answer then ∀ x ∈ xs, yes x else ∃ x ∈ xs, no x) ∧ invariant s') bad := by
  induction xs generalizing s with
  | nil => exact pure ⟨by simp, h⟩
  | cons first rest ih =>
    rw [List.allM_cons]
    refine bind (step first List.mem_cons_self s h) ?_
    intro answer s' hfirst
    obtain ⟨hanswer, hs'⟩ := hfirst
    cases answer with
    | false => exact pure ⟨⟨first, List.mem_cons_self, hanswer⟩, hs'⟩
    | true =>
      refine (ih (fun x hx => step x (List.mem_cons_of_mem _ hx)) s' hs').mono ?_
        fun _ _ hbad => hbad
      intro answer s'' hrest
      refine ⟨?_, hrest.2⟩
      cases answer with
      | true => exact List.forall_mem_cons.mpr ⟨hanswer, hrest.1⟩
      | false =>
        obtain ⟨x, hx, hno⟩ := hrest.1
        exact ⟨x, List.mem_cons_of_mem _ hx, hno⟩

end Ends

/-- However it ends, the run keeps what holds of the state. -/
def Keeps (invariant : σ → Prop) (x : EStateM ε σ α) : Prop :=
  ∀ s, invariant s → Ends x s (fun _ s' => invariant s') fun _ s' => invariant s'

namespace Keeps

variable {invariant : σ → Prop} {x : EStateM ε σ α}

theorem pure (value : α) : Keeps invariant (Pure.pure value : EStateM ε σ α) :=
  fun _ h => Ends.pure h

theorem throw (failure : ε) :
    Keeps invariant (MonadExcept.throw failure : EStateM ε σ α) := fun _ h => Ends.throw h

theorem bind {f : α → EStateM ε σ β} (hx : Keeps invariant x)
    (hf : ∀ value, Keeps invariant (f value)) : Keeps invariant (x >>= f) :=
  fun s h => Ends.bind (hx s h) fun value s' h' => hf value s' h'

theorem ite {condition : Prop} [Decidable condition] {y : EStateM ε σ α}
    (hx : Keeps invariant x) (hy : Keeps invariant y) :
    Keeps invariant (if condition then x else y) := by
  split
  · exact hx
  · exact hy

theorem mapM {f : α → EStateM ε σ β} (xs : List α) (hf : ∀ x ∈ xs, Keeps invariant (f x)) :
    Keeps invariant (xs.mapM f) := by
  induction xs with
  | nil => exact pure []
  | cons first rest ih =>
    obtain ⟨hfirst, hrest⟩ := List.forall_mem_cons.mp hf
    rw [List.mapM_cons]
    exact bind hfirst fun _ => bind (ih hrest) fun _ => pure _

theorem anyM {f : α → EStateM ε σ Bool} (xs : List α) (hf : ∀ x ∈ xs, Keeps invariant (f x)) :
    Keeps invariant (xs.anyM f) := by
  induction xs with
  | nil => exact pure false
  | cons first rest ih =>
    obtain ⟨hfirst, hrest⟩ := List.forall_mem_cons.mp hf
    rw [List.anyM_cons]
    refine bind hfirst fun answer => ?_
    cases answer with
    | true => exact pure true
    | false => exact ih hrest

theorem allM {f : α → EStateM ε σ Bool} (xs : List α) (hf : ∀ x ∈ xs, Keeps invariant (f x)) :
    Keeps invariant (xs.allM f) := by
  induction xs with
  | nil => exact pure true
  | cons first rest ih =>
    obtain ⟨hfirst, hrest⟩ := List.forall_mem_cons.mp hf
    rw [List.allM_cons]
    refine bind hfirst fun answer => ?_
    cases answer with
    | true => exact ih hrest
    | false => exact pure false

end Keeps

end Typeflow
