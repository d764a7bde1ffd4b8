import Typeflow.Catalogue
import Typeflow.Statement

/-!
Symbols: what a name denotes. A variable comes from the statement that declares it and a function
from the catalogue, with its signature.
-/

namespace Typeflow

open Text

inductive Symbol where
  | variable (declaration : Declaration)
  | function (name : Identifier) (signature : Signature)
  /-- A variable that no statement declares. It stands in no table. -/
  | undeclared (name : Identifier)
deriving DecidableEq

namespace Symbol

instance : Inhabited Symbol := ⟨.undeclared ⟨[]⟩⟩

def name : Symbol → Identifier
  | .variable declaration => declaration.name
  | .function name _ => name
  | .undeclared name => name

def render : Symbol → Text
  | .variable declaration => utf8 "var " ++ declaration.name.text
  | .function name signature => utf8 "func " ++ name.text ++ utf8 ": " ++ signature.toTy.render
  | .undeclared name => utf8 "var " ++ name.text

end Symbol

end Typeflow
