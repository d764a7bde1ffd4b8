import Typeflow.Arena.Unify

/-!
Two engines. Everything the engine does with an arena goes through the resolution of paths, so it
can be run with any resolver. With the one that compresses paths it is the standard engine; with
one that only follows paths it is a reference engine, which changes an arena in no other way than
by binding a variable.
-/

namespace Typeflow

/-- Follows the path and leaves the arena as it is. -/
def Resolver.following : Resolver := fun ty arena =>
  match arena.follow arena.size ty with
  | .error fault => .error fault arena
  | .ok (target, _) => .ok target arena

/-- The operations on arenas in which a path may be resolved. -/
structure Engine where
  resolve : Ty → Query Ty
  apply : Ty → Query Ty
  isBound : TypeVar → Query Bool
  occurs : TypeVar → Ty → Query Bool
  unresolvable : Ty → Query Bool
  identical : Ty → Ty → Query Bool
  unify : Ty → Ty → Unifier Unit

namespace Engine

def standard : Engine where
  resolve := Arena.resolve
  apply := Arena.apply
  isBound := Arena.isBound
  occurs := Arena.occurs
  unresolvable := Arena.unresolvable
  identical := Arena.identical
  unify := Unifier.unify

def ofResolver (resolve : Resolver) : Engine where
  resolve
  apply := resolve.apply
  isBound := resolve.isBound
  occurs := resolve.occurs
  unresolvable := resolve.unresolvable
  identical := resolve.identical
  unify := resolve.unify

theorem ofResolver_resolve : ofResolver Arena.resolve = standard := rfl

/-- The engine that never rewrites an entry. -/
def reference : Engine := ofResolver Resolver.following

end Engine

/-- What can be asked of an arena and its engine. -/
inductive Request where
  | fresh
  | size
  | unify (left right : Ty)
  | resolve (ty : Ty)
  | apply (ty : Ty)
  | isBound (v : TypeVar)
  | occurs (v : TypeVar) (ty : Ty)
  | unresolvable (ty : Ty)
  | identical (left right : Ty)

inductive Reply where
  | done
  | variable (v : TypeVar)
  | count (n : Nat)
  | type (ty : Ty)
  | answer (holds : Bool)
deriving DecidableEq

def Engine.perform (engine : Engine) : Request → Unifier Reply
  | .fresh => return .variable (← Unifier.fresh)
  | .size => return .count (← get).arena.size
  | .unify left right => do
    engine.unify left right
    return .done
  | .resolve ty => return .type (← Unifier.query (engine.resolve ty))
  | .apply ty => return .type (← Unifier.query (engine.apply ty))
  | .isBound v => return .answer (← Unifier.query (engine.isBound v))
  | .occurs v ty => return .answer (← Unifier.query (engine.occurs v ty))
  | .unresolvable ty => return .answer (← Unifier.query (engine.unresolvable ty))
  | .identical left right => return .answer (← Unifier.query (engine.identical left right))

structure Event where
  outcome : Except Failure Reply
  after : Session

def Engine.event (engine : Engine) (request : Request) (session : Session) : Event :=
  match engine.perform request session with
  | .ok reply after => ⟨.ok reply, after⟩
  | .error failure after => ⟨.error failure, after⟩

/-- Carries out requests one after another, whether they succeed or fail. -/
def Engine.history (engine : Engine) : List Request → Session → List Event
  | [], _ => []
  | request :: rest, session =>
    let event := engine.event request session
    event :: engine.history rest event.after

end Typeflow
