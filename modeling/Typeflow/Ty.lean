import Typeflow.Identifier

/-!
Types. A type is a name, a type variable, a function type, or the mark of a type that could not be
determined. The place of a type can also be empty; that is a value of its own here, because the
engine meets it and has to refuse it.
-/

namespace Typeflow

open Text

/-- A type variable is its index. Only indices below the size of an arena belong to it. -/
structure TypeVar where
  index : Int
deriving DecidableEq, Inhabited

inductive Ty where
  | name (name : Identifier)
  | var (var : TypeVar)
  | fn (params : List Ty) (result : Ty)
  | unresolvable
  | absent

namespace Ty

instance : Inhabited Ty := ⟨.absent⟩

mutual

def decEq : (a b : Ty) → Decidable (a = b)
  | .name m, .name n =>
    if h : m = n then isTrue (h ▸ rfl) else isFalse fun e => h (by injection e)
  | .var v, .var w => if h : v = w then isTrue (h ▸ rfl) else isFalse fun e => h (by injection e)
  | .fn ps r, .fn qs s =>
    match decEqList ps qs, decEq r s with
    | isTrue hp, isTrue hr => isTrue (hp ▸ hr ▸ rfl)
    | isFalse hp, _ => isFalse fun e => hp (by injection e)
    | _, isFalse hr => isFalse fun e => hr (by injection e)
  | .unresolvable, .unresolvable => isTrue rfl
  | .absent, .absent => isTrue rfl
  | .name _, .var _ | .name _, .fn .. | .name _, .unresolvable | .name _, .absent
  | .var _, .name _ | .var _, .fn .. | .var _, .unresolvable | .var _, .absent
  | .fn .., .name _ | .fn .., .var _ | .fn .., .unresolvable | .fn .., .absent
  | .unresolvable, .name _ | .unresolvable, .var _ | .unresolvable, .fn ..
  | .unresolvable, .absent
  | .absent, .name _ | .absent, .var _ | .absent, .fn .. | .absent, .unresolvable =>
    isFalse nofun

def decEqList : (as bs : List Ty) → Decidable (as = bs)
  | [], [] => isTrue rfl
  | a :: as, b :: bs =>
    match decEq a b, decEqList as bs with
    | isTrue ha, isTrue hs => isTrue (ha ▸ hs ▸ rfl)
    | isFalse ha, _ => isFalse fun e => ha (by injection e)
    | _, isFalse hs => isFalse fun e => hs (by injection e)
  | [], _ :: _ | _ :: _, [] => isFalse nofun

end

instance : DecidableEq Ty := decEq

mutual

/-- The number of function types nested in each other, counting the type itself. -/
def height : Ty → Nat
  | .fn params result => max (heightList params) result.height + 1
  | _ => 1

def heightList : List Ty → Nat
  | [] => 0
  | ty :: rest => max ty.height (heightList rest)

end

/-- The type is the mark itself; a function type that only mentions it is not. -/
def isUnresolvable : Ty → Bool
  | .unresolvable => true
  | _ => false

mutual

/-- The mark of an undetermined type stands somewhere in the type. -/
def mentionsUnresolvable : Ty → Bool
  | .unresolvable => true
  | .fn params result => anyUnresolvable params || result.mentionsUnresolvable
  | _ => false

def anyUnresolvable : List Ty → Bool
  | [] => false
  | ty :: rest => ty.mentionsUnresolvable || anyUnresolvable rest

end

end Ty

def TypeVar.render (v : TypeVar) : Text := utf8 "?T" ++ Text.ofInt v.index

namespace Ty

mutual

def render : Ty → Text
  | .name n => n.text
  | .var v => v.render
  | .fn params result =>
    utf8 "(" ++ Text.join (utf8 ", ") (renderList params) ++ utf8 ") -> " ++ result.render
  | .unresolvable => utf8 "<unresolvable>"
  | .absent => utf8 "<nil>"

def renderList : List Ty → List Text
  | [] => []
  | ty :: rest => ty.render :: renderList rest

end

def named (s : String) : Ty := .name (Identifier.ofString s)

end Ty

structure Signature where
  params : List Ty
  result : Ty
deriving DecidableEq, Inhabited

def Signature.toTy (signature : Signature) : Ty := .fn signature.params signature.result

end Typeflow
