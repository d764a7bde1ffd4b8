import Typeflow.Failure

/-!
The trace of a run. Three parts of the engine write to it, each on a channel that can be switched
on by itself. A trace may take only so many writes; the next one is a fault and leaves no mark.
-/

namespace Typeflow

inductive Channel where
  | unify
  | solver
  | general
deriving DecidableEq

structure Trace where
  channels : List Channel
  /-- How many writes the trace takes; `none` if all. -/
  limit : Option Nat
  writes : List Text

namespace Trace

def off : Trace := ⟨[], none, []⟩

def all : List Channel := [.unify, .solver, .general]

def isFull (trace : Trace) : Bool :=
  match trace.limit with
  | some limit => limit ≤ trace.writes.length
  | none => false

/-- Writes on a channel; nothing happens if it is switched off. -/
def write (channel : Channel) (line : Text) : EStateM Failure Trace Unit := fun trace =>
  if channel ∈ trace.channels then
    if trace.isFull then .error (.fault .traceFull) trace
    else .ok () { trace with writes := trace.writes ++ [line] }
  else .ok () trace

def text (trace : Trace) : Text := trace.writes.flatten

end Trace

end Typeflow
