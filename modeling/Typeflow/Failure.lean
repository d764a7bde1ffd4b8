import Typeflow.Symbol

/-!
Two ways to fail. An error says what is wrong with a program; it has a kind and a message and can
be caught. A fault says that the engine was used against its contract; nothing catches it.
-/

namespace Typeflow

open Text

inductive ErrorKind where
  | duplicate
  | undefined
  | unsupported
  | mismatch
  | arity
  | self
  | double
  | conflicting
deriving DecidableEq

def ErrorKind.text : ErrorKind → Text
  | .duplicate => utf8 "duplicate"
  | .undefined => utf8 "undefined"
  | .unsupported => utf8 "unsupported"
  | .mismatch => utf8 "mismatch"
  | .arity => utf8 "arity"
  | .self => utf8 "self"
  | .double => utf8 "double"
  | .conflicting => utf8 "conflicting"

inductive InferenceError where
  | duplicate (earlier later : Symbol)
  | undefined (name : Identifier) (statement : Statement)
  | unsupported (form : Unsupported) (statement : Statement)
  | mismatch (left right : Ty)
  | arity (left right : Ty)
  /-- A variable was to be bound to itself. -/
  | self (var : TypeVar)
  /-- A variable was to be bound to a type in which it occurs. -/
  | occurs (var : TypeVar) (ty : Ty)
  | double (var : TypeVar) (existing attempted : Ty)
  /-- An assignment between two symbols whose types are known and do not agree. -/
  | conflicting (target other : Symbol) (targetType otherType : Ty) (statement : Statement)
      (cause : InferenceError)
deriving DecidableEq

namespace InferenceError

def kind : InferenceError → ErrorKind
  | .duplicate .. => .duplicate
  | .undefined .. => .undefined
  | .unsupported .. => .unsupported
  | .mismatch .. => .mismatch
  | .arity .. => .arity
  | .self _ | .occurs .. => .self
  | .double .. => .double
  | .conflicting .. => .conflicting

def message : InferenceError → Text
  | .duplicate earlier later =>
    utf8 "duplicate symbol " ++ later.name.text ++ utf8 ": " ++ later.render ++
      utf8 " conflicts with " ++ earlier.render
  | .undefined name statement =>
    utf8 "undefined: " ++ name.text ++ utf8 " (in `" ++ statement.render ++ utf8 "`)"
  | .unsupported form statement =>
    utf8 "unsupported expression " ++ form.label ++ utf8 " in `" ++ statement.render ++ utf8 "`"
  | .mismatch left right =>
    utf8 "cannot unify: " ++ left.render ++ utf8 " = " ++ right.render
  | .arity left right =>
    utf8 "cannot unify functions with different number of parameters: " ++ left.render ++
      utf8 " = " ++ right.render
  | .self var => utf8 "type variable " ++ var.render ++ utf8 " cannot be unified with itself"
  | .occurs var ty => utf8 "type variable " ++ var.render ++ utf8 " occurs in " ++ ty.render
  | .double var existing attempted =>
    utf8 "type variable " ++ var.render ++ utf8 " is already " ++ existing.render ++
      utf8 ", cannot substitute " ++ attempted.render
  | .conflicting target other targetType otherType statement _ =>
    utf8 "invalid constraint '" ++ targetType.render ++ utf8 " = " ++ otherType.render ++
      utf8 "' in `" ++ statement.render ++ utf8 "`: " ++ target.name.text ++ utf8 " is " ++
      targetType.render ++ utf8 " but " ++ other.name.text ++ utf8 " is " ++ otherType.render

end InferenceError

inductive Fault where
  | foreignVariable (var : TypeVar)
  | substitutionCycle
  /-- A form that a case distinction does not provide for. -/
  | unreachable
  | notInTable (symbol : Symbol)
  | notInSolution (symbol : Symbol)
  | traceFull
  /-- A type reaches itself through function types. -/
  | endlessType
  | outOfRange
  /-- A write to a map that was never made. -/
  | missingMap
  /-- A text that is no error was raised. -/
  | raised (text : Text)
deriving DecidableEq

def Fault.message : Fault → Text
  | .foreignVariable var =>
    utf8 "type variable " ++ var.render ++ utf8 " does not belong to this arena"
  | .substitutionCycle => utf8 "substitution cycle"
  | .unreachable => utf8 "unreachable"
  | .notInTable symbol => utf8 "symbol " ++ symbol.render ++ utf8 " is not in the table"
  | .notInSolution symbol =>
    utf8 "symbol " ++ symbol.render ++ utf8 " is not part of this solution"
  | .traceFull => utf8 "debug writer: full"
  | .endlessType => utf8 "endless type"
  | .outOfRange => utf8 "runtime error"
  | .missingMap => utf8 "assignment to entry in nil map"
  | .raised text => text

def assert (condition : Bool) (fault : Fault) : Except Fault Unit :=
  if condition then .ok () else .error fault

/-- How a run ends that gives no result. -/
inductive Stop (ε : Type) where
  | error (error : ε)
  | fault (fault : Fault)
deriving DecidableEq

abbrev Failure := Stop InferenceError

/-- Turns an error into a result, with the state as the failed run left it. Faults pass
through. -/
def attempt {ε σ α : Type} (action : EStateM (Stop ε) σ α) :
    EStateM (Stop ε) σ (Except ε α) := fun state =>
  match action state with
  | .ok value state => .ok (.ok value) state
  | .error (.error error) state => .ok (.error error) state
  | .error (.fault fault) state => .error (.fault fault) state

end Typeflow
