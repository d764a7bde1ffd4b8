import Typeflow.Arena.Unify
import Typeflow.Relation
import Typeflow.SymbolTable

/-!
The state of one inference run: the arena with its trace, the symbol table with the variables of
its symbols, and the relations that are not resolved yet. The symbols of the table own the first
variables of the arena, in order.
-/

namespace Typeflow

open Text

/-- The variables of symbols and the symbols that own variables, with the arena they are from. -/
structure Registry where
  arena : Arena
  vars : Dictionary Symbol TypeVar
  owners : Dictionary TypeVar Symbol

namespace Registry

def empty : Registry := ⟨.empty, .empty, .empty⟩

def register (registry : Registry) (symbol : Symbol) : Registry :=
  let (v, arena) := registry.arena.fresh
  { arena, vars := registry.vars.set symbol v, owners := registry.owners.set v symbol }

def ofSymbols (symbols : List Symbol) : Registry := symbols.foldl register empty

end Registry

structure Checker where
  session : Session
  table : SymbolTable
  vars : Dictionary Symbol TypeVar
  owners : Dictionary TypeVar Symbol
  relations : List Relation
  vars_eq : vars = (Registry.ofSymbols table.symbols).vars
  owners_eq : owners = (Registry.ofSymbols table.symbols).owners

abbrev CheckerM := EStateM Failure Checker

namespace Checker

/-- A run in which nothing is known yet. -/
def ofTable (table : SymbolTable) (trace : Trace) : Checker :=
  let registry := Registry.ofSymbols table.symbols
  { session := ⟨registry.arena, trace⟩
    table
    vars := registry.vars
    owners := registry.owners
    relations := []
    vars_eq := rfl
    owners_eq := rfl }

def arena (checker : Checker) : Arena := checker.session.arena

def varOf (checker : Checker) (symbol : Symbol) : Except Fault TypeVar := do
  assert (checker.vars.contains symbol) (.notInTable symbol)
  return checker.vars.value symbol

def owner? (checker : Checker) (v : TypeVar) : Option Symbol := checker.owners.get? v

end Checker

namespace CheckerM

def unifier {α : Type} (action : Unifier α) : CheckerM α := fun checker =>
  match action checker.session with
  | .ok value session => .ok value { checker with session }
  | .error failure session => .error failure { checker with session }

def query {α : Type} (ask : Query α) : CheckerM α := unifier (Unifier.query ask)

def write (channel : Channel) (line : Text) : CheckerM Unit :=
  unifier (Unifier.write channel line)

def varOf (symbol : Symbol) : CheckerM TypeVar := do
  match (← get).varOf symbol with
  | .ok v => return v
  | .error fault => throw (.fault fault)

def find (name : Identifier) (statement : Statement) : CheckerM Symbol := do
  match (← get).table.find name statement with
  | .ok symbol => return symbol
  | .error error => throw (.error error)

def addRelation (relation : Relation) : CheckerM Unit := do
  write .general (utf8 "+ " ++ relation.render ++ utf8 "\n")
  modify fun checker => { checker with relations := checker.relations ++ [relation] }

end CheckerM

end Typeflow
