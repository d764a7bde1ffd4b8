import Typeflow.Program.Basic
import Typeflow.Solution

/-!
Running programs and comparing the outcome with what they expect.
-/

namespace Typeflow

open Text

structure Report where
  solution : Solution

/-- One line for each symbol, and one for each group of symbols that wait on each other. -/
def Report.render (report : Report) : Text :=
  report.solution.render ++ utf8 "\n" ++
    report.solution.cycles.flatMap fun cycle =>
      utf8 "# self-referential: " ++
        Text.join (utf8 " -> ") (cycle.map fun symbol => symbol.name.text) ++ utf8 "\n"

def Program.run (program : Program) : EStateM Failure Trace Report := do
  let table ← resolveSymbols program.statements program.builtins
  let solution ← infer program.statements table
  return ⟨solution⟩

inductive Discrepancy where
  | noError (expected : Text) (report : Report)
  | otherError (expected : Text) (error : InferenceError)
  | unexpectedError (error : InferenceError)
  | unknownSymbol (name : Text)
  | otherType (name : Text) (expected found : Ty)

namespace Discrepancy

def message : Discrepancy → Text
  | .noError expected report =>
    utf8 "expected " ++ expected ++ utf8 " error, got:\n" ++ report.render
  | .otherError expected error =>
    utf8 "expected " ++ expected ++ utf8 " error, got " ++ error.kind.text ++ utf8 ": " ++
      error.message
  | .unexpectedError error => utf8 "unexpected error: " ++ error.message
  | .unknownSymbol name => utf8 "expected type for unknown symbol " ++ name
  | .otherType name expected found =>
    name ++ utf8 ": expected " ++ expected.render ++ utf8 ", got " ++ found.render

/-- The kind of the error behind a discrepancy. -/
def kind? : Discrepancy → Option ErrorKind
  | .otherError _ error | .unexpectedError error => some error.kind
  | .noError .. | .unknownSymbol _ | .otherType .. => none

end Discrepancy

/-- Two types with the same printed form. Unresolvable types match each other here, which they
never do when types are compared in an arena. -/
def sameRendering (a b : Ty) : Bool := a.render = b.render

def Solution.check (solution : Solution) : List (Text × Ty) → Except Discrepancy Unit
  | [] => .ok ()
  | (name, expected) :: rest =>
    match solution.lookup? (.ofText name) with
    | none => .error (.unknownSymbol name)
    | some found =>
      if sameRendering expected found then solution.check rest
      else .error (.otherType name expected found)

namespace Program

def compare (program : Program) (outcome : Except InferenceError Report) :
    Except Discrepancy Unit :=
  if program.error.isEmpty then
    match outcome with
    | .ok report => report.solution.check (program.expect.sorted Text.compare)
    | .error error => .error (.unexpectedError error)
  else
    match outcome with
    | .ok report => .error (.noError program.error report)
    | .error error =>
      if error.kind.text = program.error then .ok () else .error (.otherError program.error error)

/-- Runs a program and compares the outcome with what it expects. -/
def verify (program : Program) : EStateM Failure Trace (Except Discrepancy Unit) := do
  return program.compare (← attempt program.run)

end Program

end Typeflow
