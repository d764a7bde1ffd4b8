import Typeflow.Checker.Basic

/-!
Scripts. What a run does apart from tracing, and which lines it asks to be written, can be settled
by the state it starts in, so that neither the channels that are switched on nor the room that is
left in the trace enter into it. The trace then shows itself in one way only: when it cannot take
a line, the run stops at that line with a fault.
-/

namespace Typeflow

/-- A line together with the channel that it is written on. -/
abbrev Line := Channel × Text

namespace Trace

def writeAll (script : List Line) : EStateM Failure Trace Unit :=
  script.forM fun line => write line.1 line.2

/-- The lines that appear when the given channels are switched on. -/
def shown (channels : List Channel) (script : List Line) : List Text :=
  (script.filter (·.1 ∈ channels)).map (·.2)

theorem writeAll_nil (trace : Trace) : writeAll [] trace = .ok () trace := rfl

theorem writeAll_cons (line : Line) (rest : List Line) (trace : Trace) :
    writeAll (line :: rest) trace = (write line.1 line.2 >>= fun _ => writeAll rest) trace := rfl

theorem writeAll_singleton (line : Line) (trace : Trace) :
    writeAll [line] trace = write line.1 line.2 trace := by
  rw [writeAll_cons]
  simp only [Bind.bind, EStateM.bind]
  cases write line.1 line.2 trace <;> rfl

theorem writeAll_append (script script' : List Line) (trace : Trace) :
    writeAll (script ++ script') trace =
      (writeAll script >>= fun _ => writeAll script') trace :=
  congrFun List.forM_append trace

theorem writeAll_error {script : List Line} {trace trace' : Trace} {failure : Failure}
    (h : writeAll script trace = .error failure trace') : failure = .fault .traceFull := by
  induction script generalizing trace with
  | nil => cases h
  | cons line rest ih =>
    simp only [writeAll_cons, Bind.bind, EStateM.bind, write] at h
    by_cases hchannel : line.1 ∈ trace.channels
    · by_cases hfull : trace.isFull = true
      · simp only [hchannel, hfull, if_true] at h
        cases h
        rfl
      · simp only [hchannel, hfull, if_true] at h
        exact ih h
    · simp only [hchannel, if_false] at h
      exact ih h

theorem writeAll_unlimited (channels : List Channel) (script : List Line) (writes : List Text) :
    writeAll script ⟨channels, none, writes⟩ =
      .ok () ⟨channels, none, writes ++ shown channels script⟩ := by
  induction script generalizing writes with
  | nil => simp [writeAll_nil, shown]
  | cons line rest ih =>
    simp only [writeAll_cons, Bind.bind, EStateM.bind, write]
    by_cases hchannel : line.1 ∈ channels
    · simp [hchannel, isFull, ih, shown]
    · simp [hchannel, ih, shown]

theorem writeAll_off (script : List Line) : writeAll script off = .ok () off := by
  unfold off
  rw [writeAll_unlimited]
  simp [shown]

/-- A trace with room for so many lines takes that many, and fails if there are more. -/
theorem writeAll_limited (channels : List Channel) (limit : Nat) (script : List Line)
    (writes : List Text) (hroom : writes.length ≤ limit) :
    writeAll script ⟨channels, some limit, writes⟩ =
      if (writes ++ shown channels script).length ≤ limit then
        .ok () ⟨channels, some limit, writes ++ shown channels script⟩
      else
        .error (.fault .traceFull)
          ⟨channels, some limit, (writes ++ shown channels script).take limit⟩ := by
  induction script generalizing writes with
  | nil => simp [writeAll_nil, shown, hroom]
  | cons line rest ih =>
    simp only [writeAll_cons, Bind.bind, EStateM.bind, write]
    by_cases hchannel : line.1 ∈ channels
    · by_cases hfull : limit ≤ writes.length
      · have hlength : writes.length = limit := by omega
        simp [hchannel, isFull, shown, ← hlength]
      · have hroom' : (writes ++ [line.2]).length ≤ limit := by
          simp only [List.length_append, List.length_singleton]
          omega
        simp [hchannel, isFull, hfull, ih _ hroom', shown]
    · simp [hchannel, ih _ hroom, shown]

end Trace

/-- The states of the engine, each of which carries a trace. -/
class Traced (σ : Type) where
  withTrace : σ → Trace → σ

open Traced (withTrace)

instance : Traced Trace := ⟨fun _ trace => trace⟩

instance : Traced Session := ⟨fun session trace => { session with trace }⟩

instance : Traced Checker :=
  ⟨fun checker trace => { checker with session := withTrace checker.session trace }⟩

section Scripted

variable {σ α β : Type} [Traced σ]

/-- An ending with another trace. -/
def retrace (ending : EStateM.Result Failure σ α) (trace : Trace) : EStateM.Result Failure σ α :=
  match ending with
  | .ok value s => .ok value (withTrace s trace)
  | .error failure s => .error failure (withTrace s trace)

/-- From the state `s` and with whatever trace, the run writes the lines of `script`. If the trace
takes them all, the run comes to `ending`; otherwise it stops where the trace was full. -/
def Performs (x : EStateM Failure σ α) (s : σ) (script : List Line)
    (ending : EStateM.Result Failure σ α) : Prop :=
  ∀ trace, match Trace.writeAll script trace with
    | .ok _ trace' => x (withTrace s trace) = retrace ending trace'
    | .error failure trace' => ∃ s', x (withTrace s trace) = .error failure (withTrace s' trace')

/-- What the run does and writes is settled by the state alone. -/
def Scripted (x : EStateM Failure σ α) (s : σ) : Prop :=
  ∃ script ending, Performs x s script ending

namespace Scripted

variable {x : EStateM Failure σ α} {s : σ}

/-- A run that does not look at the trace. -/
theorem of_silent (ending : EStateM.Result Failure σ α)
    (h : ∀ trace, x (withTrace s trace) = retrace ending trace) : Scripted x s :=
  ⟨[], ending, h⟩

theorem pure (value : α) (s : σ) : Scripted (Pure.pure value) s :=
  of_silent (.ok value s) fun _ => rfl

theorem throw (failure : Failure) (s : σ) :
    Scripted (MonadExcept.throw failure : EStateM Failure σ α) s :=
  of_silent (.error failure s) fun _ => rfl

theorem bind {f : α → EStateM Failure σ β} (hx : Scripted x s)
    (hf : ∀ value s', Scripted (f value) s') : Scripted (x >>= f) s := by
  obtain ⟨script, ending, hperforms⟩ := hx
  cases ending with
  | ok value s' =>
    obtain ⟨script', ending', hperforms'⟩ := hf value s'
    refine ⟨script ++ script', ending', fun trace => ?_⟩
    have hfirst := hperforms trace
    rw [Trace.writeAll_append]
    simp only [Bind.bind, EStateM.bind]
    cases hwrites : Trace.writeAll script trace with
    | ok _ trace' =>
      simp only [hwrites] at hfirst
      simp only [hfirst, retrace]
      exact hperforms' trace'
    | error failure trace' =>
      simp only [hwrites] at hfirst
      obtain ⟨s'', hstops⟩ := hfirst
      exact ⟨s'', by simp only [hstops]⟩
  | error failure s' =>
    refine ⟨script, .error failure s', fun trace => ?_⟩
    have hfirst := hperforms trace
    simp only [Bind.bind, EStateM.bind]
    cases hwrites : Trace.writeAll script trace with
    | ok _ trace' =>
      simp only [hwrites] at hfirst
      simp only [hfirst, retrace]
    | error failure' trace' =>
      simp only [hwrites] at hfirst
      obtain ⟨s'', hstops⟩ := hfirst
      exact ⟨s'', by simp only [hstops]⟩

theorem ite {condition : Prop} [Decidable condition] {y : EStateM Failure σ α}
    (hx : Scripted x s) (hy : Scripted y s) : Scripted (if condition then x else y) s := by
  split
  · exact hx
  · exact hy

theorem get_bind {f : σ → EStateM Failure σ β} (hf : ∀ trace, f (withTrace s trace) = f s)
    (h : Scripted (f s) s) : Scripted (MonadState.get >>= f) s := by
  obtain ⟨script, ending, hperforms⟩ := h
  refine ⟨script, ending, fun trace => ?_⟩
  have hget : (MonadState.get >>= f) (withTrace s trace) = f s (withTrace s trace) := by
    rw [← hf trace]
    rfl
  rw [hget]
  exact hperforms trace

theorem of_modify {f : σ → σ} (hf : ∀ trace, f (withTrace s trace) = withTrace (f s) trace) :
    Scripted (modify f : EStateM Failure σ PUnit) s :=
  of_silent (.ok ⟨⟩ (f s)) fun trace => congrArg (EStateM.Result.ok _) (hf trace)

theorem forM {f : α → EStateM Failure σ PUnit} (xs : List α)
    (hf : ∀ x ∈ xs, ∀ s, Scripted (f x) s) (s : σ) : Scripted (xs.forM f) s := by
  induction xs generalizing s with
  | nil => exact pure _ s
  | cons first rest ih =>
    obtain ⟨hfirst, hrest⟩ := List.forall_mem_cons.mp hf
    exact bind (hfirst s) fun _ s' => ih hrest s'

theorem mapM {f : α → EStateM Failure σ β} (xs : List α) (hf : ∀ x ∈ xs, ∀ s, Scripted (f x) s)
    (s : σ) : Scripted (xs.mapM f) s := by
  induction xs generalizing s with
  | nil => exact pure _ s
  | cons first rest ih =>
    obtain ⟨hfirst, hrest⟩ := List.forall_mem_cons.mp hf
    rw [List.mapM_cons]
    exact bind (hfirst s) fun _ s' => bind (ih hrest s') fun _ s'' => pure _ s''

/-- Errors become results, but a trace that is full is a fault and ends the attempt as well. -/
theorem attempt (hx : Scripted x s) : Scripted (Typeflow.attempt x) s := by
  obtain ⟨script, ending, hperforms⟩ := hx
  refine ⟨script, Typeflow.attempt (fun _ => ending) s, fun trace => ?_⟩
  have hrun := hperforms trace
  cases hwrites : Trace.writeAll script trace with
  | ok _ trace' =>
    simp only [hwrites] at hrun
    simp only [Typeflow.attempt, hrun]
    cases ending with
    | ok value s' => rfl
    | error failure s' => cases failure <;> rfl
  | error failure trace' =>
    simp only [hwrites] at hrun
    obtain ⟨s', hstops⟩ := hrun
    obtain rfl := Trace.writeAll_error hwrites
    exact ⟨s', by simp only [Typeflow.attempt, hstops]⟩

end Scripted

end Scripted

/-- A run ends in this outcome and leaves this trace. -/
def concluded {α : Type} (outcome : Except Failure α) (trace : Trace) :
    EStateM.Result Failure Trace α :=
  match outcome with
  | .ok value => .ok value trace
  | .error failure => .error failure trace

theorem concluded_inj {α : Type} {outcome outcome' : Except Failure α} {trace trace' : Trace}
    (h : concluded outcome trace = concluded outcome' trace') : outcome = outcome' := by
  cases outcome <;> cases outcome' <;> cases h <;> rfl

theorem exists_concluded {α : Type} (ending : EStateM.Result Failure Trace α) :
    ∃ outcome, ∀ trace, retrace ending trace = concluded outcome trace := by
  cases ending with
  | ok value _ => exact ⟨.ok value, fun _ => rfl⟩
  | error failure _ => exact ⟨.error failure, fun _ => rfl⟩

/-- A run that was not stopped by its trace ends the same without a trace. -/
theorem Scripted.off {α : Type} {x : EStateM Failure Trace α} (h : Scripted x Trace.off)
    {trace trace' : Trace} {outcome : Except Failure α} (hx : x trace = concluded outcome trace')
    (houtcome : outcome ≠ .error (.fault .traceFull)) :
    x Trace.off = concluded outcome Trace.off := by
  obtain ⟨script, ending, hperforms⟩ := h
  obtain ⟨found, hfound⟩ := exists_concluded ending
  have hoff := hperforms Trace.off
  rw [Trace.writeAll_off] at hoff
  have hrun := hperforms trace
  cases hwrites : Trace.writeAll script trace with
  | ok _ after =>
    simp only [hwrites] at hrun
    have hsame : concluded outcome trace' = concluded found after :=
      hx.symm.trans (hrun.trans (hfound after))
    rw [concluded_inj hsame]
    exact hoff.trans (hfound Trace.off)
  | error failure after =>
    simp only [hwrites] at hrun
    obtain ⟨_, hstops⟩ := hrun
    obtain rfl := Trace.writeAll_error hwrites
    have hsame : concluded outcome trace' = concluded (.error (.fault .traceFull)) after :=
      hx.symm.trans hstops
    exact absurd (concluded_inj hsame) houtcome

end Typeflow
