import Typeflow.Checker.Basic
import Typeflow.Sequence

/-!
Solving resolves relations until none of them can be resolved. Whenever one is resolved it is
removed and the search starts again from the first, so that relations passed over earlier profit
from what is known now.
-/

namespace Typeflow.CheckerM

open Text

/-- Equates a target with a known type. A value that is not resolvable says nothing about its
target. -/
def tryEquate (relation : Relation) (target other : TypeVar) (targetSymbol otherSymbol : Symbol)
    (statement : Statement) : CheckerM Bool := do
  if ← query (Arena.isBound other) then
    let otherType ← query (Arena.resolve (.var other))
    if ← query (Arena.unresolvable otherType) then return false
    else if ← query (Arena.isBound target) then
      let targetType ← query (Arena.resolve (.var target))
      match ← attempt (unifier (Unifier.unify targetType otherType)) with
      | .ok () =>
        write .solver
          (utf8 "ok " ++ relation.render ++ utf8 " (" ++ otherType.render ++ utf8 ")\n")
        return true
      | .error cause =>
        let targetType ← query (Arena.apply targetType)
        let otherType ← query (Arena.apply otherType)
        throw (.error
          (.conflicting targetSymbol otherSymbol targetType otherType statement cause))
    else
      write .solver
        (utf8 "ok " ++ relation.render ++ utf8 " := " ++ otherType.render ++ utf8 "\n")
      unifier (Unifier.unify (.var target) otherType)
      return true
  else return false

/-- A callee of this type cannot be applied: it is unresolvable or one of its parameters is. -/
def cannotApply : Ty → CheckerM Bool
  | .unresolvable => return true
  | .fn params _ => query (params.anyM Arena.unresolvable)
  | _ => return false

def tryApply (relation : Relation) (callee : TypeVar) (args : List TypeVar) (result : TypeVar) :
    CheckerM Bool := do
  if ← query (Arena.isBound callee) then
    let calleeType ← query (Arena.resolve (.var callee))
    if ← cannotApply calleeType then return false
    else if ← query (args.anyM fun arg => Arena.unresolvable (.var arg)) then return false
    else
      write .solver
        (utf8 "ok " ++ relation.render ++ utf8 " (" ++ calleeType.render ++ utf8 ")\n")
      unifier (Unifier.unify calleeType (.fn (args.map .var) (.var result)))
      return true
  else return false

/-- Resolves a relation if what is known now suffices, and says whether it did. -/
def tryResolve (relation : Relation) : CheckerM Bool :=
  match relation with
  | .equates target other targetSymbol otherSymbol statement =>
    tryEquate relation target other targetSymbol otherSymbol statement
  | .applies callee args result => tryApply relation callee args result

/-- Resolves the first relation that can be resolved; the result is its place. -/
def resolveFirst : List Relation → CheckerM (Option Nat)
  | [] => return none
  | relation :: rest => do
    if ← tryResolve relation then return some 0
    else return (← resolveFirst rest).map (· + 1)

def removeRelation (place : Nat) : CheckerM Unit := do
  match removeAt (← get).relations place with
  | .ok remaining => modify fun checker => { checker with relations := remaining }
  | .error fault => throw (.fault fault)

def resolveNext : CheckerM Bool := do
  match ← resolveFirst (← get).relations with
  | some place =>
    removeRelation place
    return true
  | none => return false

/-- Resolves relations one after another. Each round removes one, so as many rounds as there are
relations are enough. -/
def resolveAll : Nat → Nat → CheckerM Unit
  | 0, _ => return ()
  | rounds + 1, round => do
    if ← resolveNext then
      write .solver (utf8 "=== iteration " ++ Text.ofNat round ++ utf8 " ===\n")
      write .solver (utf8 "pending: " ++ Relation.renderList (← get).relations ++ utf8 "\n")
      write .solver (utf8 "subst: " ++ (← get).arena.render ++ utf8 "\n")
      resolveAll rounds (round + 1)

/-- The type of a function is known from the start. -/
def bindFunction : Symbol → CheckerM Unit
  | .function name signature => do
    let v ← varOf (.function name signature)
    unifier (Unifier.unify (.var v) signature.toTy)
  | _ => return ()

def solve : CheckerM Unit := do
  write .solver (utf8 "=== Solve ===\n")
  (← get).table.symbols.forM bindFunction
  resolveAll (← get).relations.length 0
  let relations := (← get).relations
  if relations.isEmpty then return ()
  else write .solver (utf8 "unresolved: " ++ Relation.renderList relations ++ utf8 "\n")

end Typeflow.CheckerM
