import Typeflow.Symbol

/-!
Relations between type variables. Each waits for what is known about one variable and then
determines another. An equation keeps the symbols and the statement it comes from, since an error
names them; no error names the call behind an application, so it keeps only variables.
-/

namespace Typeflow

open Text

inductive Relation where
  /-- `target` has the type that `other` turns out to have. -/
  | equates (target other : TypeVar) (targetSymbol otherSymbol : Symbol) (statement : Statement)
  /-- `callee` turns out to be a function that takes `args` and returns `result`. -/
  | applies (callee : TypeVar) (args : List TypeVar) (result : TypeVar)
deriving DecidableEq

namespace Relation

/-- The variable that has to be known before the relation can be resolved. -/
def waitsOn : Relation → TypeVar
  | .equates _ other _ _ _ => other
  | .applies callee _ _ => callee

/-- The variable that becomes known with the relation. -/
def determines : Relation → TypeVar
  | .equates target _ _ _ _ => target
  | .applies _ _ result => result

def render : Relation → Text
  | .equates target other _ _ _ => target.render ++ utf8 " = " ++ other.render
  | .applies callee args result =>
    callee.render ++ utf8 " =app (" ++ Text.join (utf8 ", ") (args.map TypeVar.render) ++
      utf8 ") -> " ++ result.render

def renderList (relations : List Relation) : Text :=
  utf8 "[" ++ Text.join (utf8 ", ") (relations.map render) ++ utf8 "]"

end Relation

end Typeflow
