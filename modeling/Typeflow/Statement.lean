import Typeflow.Ty

/-!
Statements and expressions. A program declares variables, with or without an initial value, and
assigns to them; values are references and calls. Forms that the engine does not know can stand in
the tree as well: they are printed, and refused when their type is asked for.
-/

namespace Typeflow

open Text

/-- Expressions that have no type: nothing at all, the empty shells of a reference and of a call,
and forms from elsewhere, of which only the name of the form and the printed text are known. -/
inductive Unsupported where
  | missing
  | emptyReference
  | emptyCall
  | foreign (form text : Text)
deriving DecidableEq

def Unsupported.label : Unsupported → Text
  | .missing => utf8 "<nil>"
  | .emptyReference => utf8 "*tree.VariableExpr"
  | .emptyCall => utf8 "*tree.InvokeExpr"
  | .foreign form _ => form

def Unsupported.render : Unsupported → Text
  | .foreign _ text => text
  | _ => utf8 "<nil>"

inductive Expr where
  | ref (name : Identifier)
  | call (callee : Identifier) (args : List Expr)
  | unsupported (form : Unsupported)

namespace Expr

mutual

def decEq : (a b : Expr) → Decidable (a = b)
  | .ref m, .ref n => if h : m = n then isTrue (h ▸ rfl) else isFalse fun e => h (by injection e)
  | .call f as, .call g bs =>
    if hf : f = g then
      match decEqList as bs with
      | isTrue hs => isTrue (hf ▸ hs ▸ rfl)
      | isFalse hs => isFalse fun e => hs (by injection e)
    else isFalse fun e => hf (by injection e)
  | .unsupported x, .unsupported y =>
    if h : x = y then isTrue (h ▸ rfl) else isFalse fun e => h (by injection e)
  | .ref _, .call .. | .ref _, .unsupported _ | .call .., .ref _ | .call .., .unsupported _
  | .unsupported _, .ref _ | .unsupported _, .call .. => isFalse nofun

def decEqList : (as bs : List Expr) → Decidable (as = bs)
  | [], [] => isTrue rfl
  | a :: as, b :: bs =>
    match decEq a b, decEqList as bs with
    | isTrue ha, isTrue hs => isTrue (ha ▸ hs ▸ rfl)
    | isFalse ha, _ => isFalse fun e => ha (by injection e)
    | _, isFalse hs => isFalse fun e => hs (by injection e)
  | [], _ :: _ | _ :: _, [] => isFalse nofun

end

instance : DecidableEq Expr := decEq

mutual

def render : Expr → Text
  | .ref name => name.text
  | .call callee args =>
    callee.text ++ utf8 "(" ++ Text.join (utf8 ", ") (renderList args) ++ utf8 ")"
  | .unsupported form => form.render

def renderList : List Expr → List Text
  | [] => []
  | expr :: rest => expr.render :: renderList rest

end

end Expr

structure Declaration where
  name : Identifier
  init : Option Expr
deriving DecidableEq

def Declaration.render (declaration : Declaration) : Text :=
  utf8 "var " ++ declaration.name.text ++
    (match declaration.init with
      | some init => utf8 " = " ++ init.render
      | none => []) ++ utf8 ";"

inductive Statement where
  | declare (declaration : Declaration)
  | assign (name : Identifier) (value : Expr)
  | unknown
  | missing
deriving DecidableEq

namespace Statement

def render : Statement → Text
  | .declare declaration => declaration.render
  | .assign name value => name.text ++ utf8 " = " ++ value.render ++ utf8 ";"
  | .unknown => utf8 "unknown;"
  | .missing => utf8 "<nil>"

def renderList (stmts : List Statement) : Text :=
  Text.join (utf8 "\n") (stmts.map render)

end Statement

end Typeflow
