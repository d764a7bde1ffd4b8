import Typeflow.Checker.Generate
import Typeflow.Checker.Solve
import Typeflow.Graph

/-!
The outcome of inference: one type for each symbol of the table, the relations that stayed
unresolved, and the groups of symbols that wait for each other. A symbol about which nothing
became known has the unresolvable type.
-/

namespace Typeflow

open Text

structure Solution where
  table : SymbolTable
  /-- The symbols of the table, in order, with their types. -/
  types : List (Symbol × Ty)
  pending : List Relation
  cycles : List (List Symbol)

namespace Checker

/-- The variables of pending relations, each with those that it waits on. -/
def waiting (relations : List Relation) : Graph TypeVar :=
  relations.foldl (fun graph relation => graph.addEdge relation.determines relation.waitsOn) ⟨[]⟩

/-- Groups of symbols that wait on each other. Variables without a symbol are left out, and so are
groups without any symbol. -/
def pendingCycles (checker : Checker) : List (List Symbol) :=
  let graph := waiting checker.relations
  (graph.cyclesFrom graph.sources).filterMap fun cycle =>
    match uniq (cycle.filterMap checker.owner?) with
    | [] => none
    | symbols => some symbols

end Checker

namespace CheckerM

def typeOf (symbol : Symbol) : CheckerM (Symbol × Ty) := do
  match ← query (Arena.apply (.var (← varOf symbol))) with
  | .var _ => return (symbol, .unresolvable)
  | ty => return (symbol, ty)

def solution : CheckerM Solution := do
  let table := (← get).table
  let types ← table.symbols.mapM typeOf
  let checker ← get
  return { table, types, pending := checker.relations, cycles := checker.pendingCycles }

end CheckerM

def infer (stmts : List Statement) (table : SymbolTable) : EStateM Failure Trace Solution :=
  fun trace =>
    let run : CheckerM Solution := do
      CheckerM.generate stmts
      CheckerM.solve
      CheckerM.solution
    match run (Checker.ofTable table trace) with
    | .ok solution checker => .ok solution checker.session.trace
    | .error failure checker => .error failure checker.session.trace

namespace Solution

def typeOf (solution : Solution) (symbol : Symbol) : Except Fault Ty :=
  match solution.types.find? (·.1 = symbol) with
  | some (_, ty) => .ok ty
  | none => .error (.notInSolution symbol)

def lookup? (solution : Solution) (name : Identifier) : Option Ty :=
  match solution.table.lookup? name with
  | some symbol => (solution.typeOf symbol).toOption
  | none => none

def size (solution : Solution) : Nat := solution.types.length

def unresolved (solution : Solution) : List Symbol :=
  (solution.types.filter (·.2.isUnresolvable)).map (·.1)

def render (solution : Solution) : Text :=
  Text.join (utf8 "\n")
    (solution.types.map fun (symbol, ty) => symbol.name.text ++ utf8 ": " ++ ty.render)

end Solution

end Typeflow
