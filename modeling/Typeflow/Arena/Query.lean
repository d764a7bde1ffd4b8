import Typeflow.Arena.Basic

/-!
Questions about types as the arena knows them: the type with every bound variable replaced,
whether a variable or the unresolvable mark occurs in it, and whether two types are the same. Each
of them resolves node by node. Types that reach themselves have no end; the depth of the descent
is limited so that such a type ends in a fault.
-/

namespace Typeflow

namespace Resolver

variable (resolve : Resolver)

/-- The type with all bound variables replaced, down to the given depth. -/
def applyWithin : Nat → Ty → Query Ty
  | 0, _ => throw .endlessType
  | depth + 1, ty => do
    match ← resolve ty with
    | .fn params result =>
      let params ← params.mapM (applyWithin depth)
      let result ← applyWithin depth result
      return .fn params result
    | resolved => return resolved

def apply (ty : Ty) : Query Ty := fun arena =>
  resolve.applyWithin (arena.depthBound [ty]) ty arena

def occursWithin (v : TypeVar) : Nat → Ty → Query Bool
  | 0, _ => throw .endlessType
  | depth + 1, ty => do
    match ← resolve ty with
    | .var w => return w = v
    | .fn params result =>
      if ← params.anyM (occursWithin v depth) then return true
      else occursWithin v depth result
    | .name _ | .unresolvable => return false
    | .absent => throw .unreachable

def occurs (v : TypeVar) (ty : Ty) : Query Bool := fun arena =>
  resolve.occursWithin v (arena.depthBound [ty]) ty arena

def unresolvableWithin : Nat → Ty → Query Bool
  | 0, _ => throw .endlessType
  | depth + 1, ty => do
    match ← resolve ty with
    | .unresolvable => return true
    | .fn params result =>
      if ← params.anyM (unresolvableWithin depth) then return true
      else unresolvableWithin depth result
    | .var _ | .name _ => return false
    | .absent => throw .unreachable

/-- The type is unresolvable or mentions the mark. -/
def unresolvable (ty : Ty) : Query Bool := fun arena =>
  resolve.unresolvableWithin (arena.depthBound [ty]) ty arena

def identicalWithin : Nat → Ty → Ty → Query Bool
  | 0, _, _ => throw .endlessType
  | depth + 1, left, right => do
    let left ← resolve left
    let right ← resolve right
    match left, right with
    | .var v, .var w => return v = w
    | .name m, .name n => return m = n
    | .fn params result, .fn params' result' =>
      if params.length ≠ params'.length then return false
      else if ← (params.zip params').allM fun (p, q) => identicalWithin depth p q then
        identicalWithin depth result result'
      else return false
    | .absent, _ => throw .unreachable
    | _, _ => return false

/-- The types are the same. A type that is unresolvable is the same as nothing. -/
def identical (left right : Ty) : Query Bool := fun arena =>
  resolve.identicalWithin (arena.depthBound [left, right]) left right arena

end Resolver

namespace Arena

def applyWithin : Nat → Ty → Query Ty := Resolver.applyWithin resolve

def apply : Ty → Query Ty := Resolver.apply resolve

theorem apply_eq_applyWithin (ty : Ty) (arena : Arena) :
    apply ty arena = applyWithin (arena.depthBound [ty]) ty arena := rfl

def occursWithin : TypeVar → Nat → Ty → Query Bool := Resolver.occursWithin resolve

def occurs : TypeVar → Ty → Query Bool := Resolver.occurs resolve

def unresolvableWithin : Nat → Ty → Query Bool := Resolver.unresolvableWithin resolve

def unresolvable : Ty → Query Bool := Resolver.unresolvable resolve

theorem unresolvable_eq_unresolvableWithin (ty : Ty) (arena : Arena) :
    unresolvable ty arena = unresolvableWithin (arena.depthBound [ty]) ty arena := rfl

def identicalWithin : Nat → Ty → Ty → Query Bool := Resolver.identicalWithin resolve

def identical : Ty → Ty → Query Bool := Resolver.identical resolve

end Arena

end Typeflow
