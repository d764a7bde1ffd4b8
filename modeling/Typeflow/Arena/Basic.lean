import Typeflow.Failure

/-!
Arenas own the type variables of one run. A variable is an index; its entry is the type that has
been substituted for it, or nothing while it is unbound. Resolving follows the entries to a type
that is not a bound variable and makes every variable passed on the way point at that type.
-/

namespace Typeflow

open Text

structure Arena where
  entries : Array (Option Ty)

/-- What asks about types. It may compress paths in the arena, also when it ends in a fault. -/
abbrev Query := EStateM Fault Arena

namespace Arena

def empty : Arena := ⟨#[]⟩

def size (arena : Arena) : Nat := arena.entries.size

def fresh (arena : Arena) : TypeVar × Arena := (⟨arena.size⟩, ⟨arena.entries.push none⟩)

/-- The direct substitution of a variable of this arena. -/
def lookup (arena : Arena) (v : TypeVar) : Except Fault (Option Ty) :=
  match v.index with
  | .ofNat index =>
    match arena.entries[index]? with
    | some entry => .ok entry
    | none => .error (.foreignVariable v)
  | .negSucc _ => .error (.foreignVariable v)

/-- Sets the entry of a variable. Setting it to no type leaves the variable unbound. -/
def assign (arena : Arena) (v : TypeVar) (ty : Ty) : Arena :=
  ⟨arena.entries.setIfInBounds v.index.toNat (if ty = .absent then none else some ty)⟩

/-- Follows entries from `ty`. The result is the type at the end and the bound variables passed,
in order. An arena has no more variables than its size, so a longer path has met one twice. -/
def follow (arena : Arena) : Nat → Ty → Except Fault (Ty × List TypeVar)
  | steps, .var v =>
    match arena.lookup v with
    | .error fault => .error fault
    | .ok none => .ok (.var v, [])
    | .ok (some next) =>
      match steps with
      | 0 => .error .substitutionCycle
      | steps + 1 =>
        match arena.follow steps next with
        | .error fault => .error fault
        | .ok (target, passed) => .ok (target, v :: passed)
  | _, ty => .ok (ty, [])

/-- Points all variables of a path but the last one at its end. The last one points there
already. -/
def compress (arena : Arena) (passed : List TypeVar) (target : Ty) : Arena :=
  passed.dropLast.foldl (fun arena v => arena.assign v target) arena

/-- The type at the end of the path that starts with `ty`. -/
def resolve (ty : Ty) : Query Ty := fun arena =>
  match arena.follow arena.size ty with
  | .error fault => .error fault arena
  | .ok (target, passed) => .ok target (arena.compress passed target)

def bindings (arena : Arena) : List (TypeVar × Ty) :=
  arena.entries.toList.zipIdx.filterMap fun (entry, index) =>
    entry.map fun ty => (⟨index⟩, ty)

def render (arena : Arena) : Text :=
  utf8 "\x7b\x7b " ++
    Text.join (utf8 " ; ")
      (arena.bindings.map fun (v, ty) => v.render ++ utf8 " -> " ++ ty.render) ++
    utf8 " \x7d\x7d"

/-- A bound for the nesting of any type that the given types and the entries build when variables
are replaced again and again. Each variable is met at most once on the way down, and each time a
type of at most the greatest height is entered. -/
def depthBound (arena : Arena) (types : List Ty) : Nat :=
  let heights := arena.entries.foldl
    (fun height entry => max height ((entry.map Ty.height).getD 0)) (Ty.heightList types)
  (arena.size + 1) * (heights + 1)

end Arena

/-- A way to find the type at the end of a path. What is asked about types and what is done to
them is written for any such way; the engine uses the one that compresses paths. -/
abbrev Resolver := Ty → Query Ty

def Resolver.isBound (resolve : Resolver) (v : TypeVar) : Query Bool := do
  match ← resolve (.var v) with
  | .var _ => return false
  | _ => return true

def Arena.isBound : TypeVar → Query Bool := Resolver.isBound resolve

end Typeflow
