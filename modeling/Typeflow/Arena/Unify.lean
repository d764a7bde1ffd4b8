import Typeflow.Arena.Query
import Typeflow.Trace

/-!
Unification makes two types equal by binding variables. It descends into function types parameter
by parameter, and bindings made before a failure stay. A variable is never bound to itself or to a
type in which it occurs, and the unresolvable mark agrees with nothing.
-/

namespace Typeflow

open Text

/-- An arena together with the trace of what is done to it. -/
structure Session where
  arena : Arena
  trace : Trace

abbrev Unifier := EStateM Failure Session

namespace Unifier

def query {α : Type} (ask : Query α) : Unifier α := fun session =>
  match ask session.arena with
  | .ok answer arena => .ok answer { session with arena }
  | .error fault arena => .error (.fault fault) { session with arena }

def write (channel : Channel) (line : Text) : Unifier Unit := fun session =>
  match Trace.write channel line session.trace with
  | .ok _ trace => .ok () { session with trace }
  | .error failure trace => .error failure { session with trace }

def fresh : Unifier TypeVar := fun session =>
  let (v, arena) := session.arena.fresh
  .ok v { session with arena }

def lookup (v : TypeVar) : Unifier (Option Ty) := fun session =>
  match session.arena.lookup v with
  | .ok entry => .ok entry session
  | .error fault => .error (.fault fault) session

end Unifier

namespace Resolver

variable (resolve : Resolver)

/-- Binds a variable once. Binding it again to the same type does nothing. -/
def substitute (v : TypeVar) (ty : Ty) : Unifier Unit := do
  match ← Unifier.lookup v with
  | some existing =>
    if ← Unifier.query (resolve.identical existing ty) then return ()
    else
      let existing ← Unifier.query (resolve.apply existing)
      let attempted ← Unifier.query (resolve.apply ty)
      throw (.error (.double v existing attempted))
  | none =>
    Unifier.write .unify (utf8 "  " ++ v.render ++ utf8 " := " ++ ty.render ++ utf8 "\n")
    modify fun session => { session with arena := session.arena.assign v ty }

/-- Binds a variable to a type that does not mention it. -/
def bindVar (v : TypeVar) (ty : Ty) : Unifier Unit := do
  match ty with
  | .var _ => resolve.substitute v ty
  | _ =>
    if ← Unifier.query (resolve.occurs v ty) then
      let ty ← Unifier.query (resolve.apply ty)
      throw (.error (.occurs v ty))
    else resolve.substitute v ty

def refuse (reason : Ty → Ty → InferenceError) (left right : Ty) : Unifier Unit := do
  let left ← Unifier.query (resolve.apply left)
  let right ← Unifier.query (resolve.apply right)
  throw (.error (reason left right))

def unifyWithin : Nat → Ty → Ty → Unifier Unit
  | 0, _, _ => throw (.fault .endlessType)
  | depth + 1, left, right => do
    let left ← Unifier.query (resolve left)
    let right ← Unifier.query (resolve right)
    Unifier.write .unify (utf8 "? " ++ left.render ++ utf8 " = " ++ right.render ++ utf8 "\n")
    match left, right with
    | .var v, .var w => if v = w then throw (.error (.self v)) else resolve.bindVar v (.var w)
    | .var v, right => resolve.bindVar v right
    | left, .var w => resolve.bindVar w left
    | .name m, .name n =>
      if m = n then return () else resolve.refuse .mismatch (.name m) (.name n)
    | .fn params result, .fn params' result' =>
      if params.length ≠ params'.length then
        resolve.refuse .arity (.fn params result) (.fn params' result')
      else
        (params.zip params').forM fun (p, q) => unifyWithin depth p q
        unifyWithin depth result result'
    | .absent, _ => throw (.fault .unreachable)
    | left, right => resolve.refuse .mismatch left right

def unify (left right : Ty) : Unifier Unit := fun session =>
  resolve.unifyWithin (session.arena.depthBound [left, right]) left right session

end Resolver

namespace Unifier

def substitute : TypeVar → Ty → Unifier Unit := Resolver.substitute Arena.resolve

def bindVar : TypeVar → Ty → Unifier Unit := Resolver.bindVar Arena.resolve

def refuse : (Ty → Ty → InferenceError) → Ty → Ty → Unifier Unit := Resolver.refuse Arena.resolve

def unifyWithin : Nat → Ty → Ty → Unifier Unit := Resolver.unifyWithin Arena.resolve

def unify : Ty → Ty → Unifier Unit := Resolver.unify Arena.resolve

theorem unify_eq_unifyWithin (left right : Ty) (session : Session) :
    unify left right session =
      unifyWithin (session.arena.depthBound [left, right]) left right session := rfl

end Unifier

end Typeflow
