import Typeflow.Draft.Shape
import Typeflow.Text.Quoted
import Typeflow.Yaml.Tag

/-!
What can be wrong with the form of a document. All problems of a document are collected.
-/

namespace Typeflow

open Text

inductive Problem where
  /-- A node does not have the shape that is expected in its place. -/
  | unsuited (line : Nat) (tag : Yaml.Tag) (text : Text) (shape : Shape)
  | repeatedKey (line : Nat) (key : Text) (earlier : Nat)
  /-- Two keys that are written in different ways name the same field. -/
  | repeatedField (line : Nat) (field : Text) (kind : Record)
deriving DecidableEq

namespace Problem

/-- The text of a node in a message. Only the beginning of a long one is shown, and nothing is put
around what has the tag of a collection. -/
def excerpt (tag : Yaml.Tag) (text : Text) : Text :=
  if tag = Yaml.Tag.seq ∨ tag = Yaml.Tag.map then text
  else
    utf8 " `" ++ (if 10 < text.length then text.take 7 ++ utf8 "..." else text) ++ utf8 "`"

def message : Problem → Text
  | .unsuited line tag text shape =>
    utf8 "line " ++ ofNat line ++ utf8 ": cannot unmarshal " ++ tag ++ excerpt tag text ++
      utf8 " into " ++ shape.label
  | .repeatedKey line key earlier =>
    utf8 "line " ++ ofNat line ++ utf8 ": mapping key " ++ quote key ++
      utf8 " already defined at line " ++ ofNat earlier
  | .repeatedField line field kind =>
    utf8 "line " ++ ofNat line ++ utf8 ": field " ++ field ++ utf8 " already set in type " ++
      kind.label

def messageOfList (problems : List Problem) : Text :=
  utf8 "yaml: unmarshal errors:" ++ problems.flatMap fun problem => utf8 "\n  " ++ problem.message

end Problem

end Typeflow
