import Typeflow.Draft.Basic

/-!
The shapes of drafts, and values of these shapes. A document is read with a shape in mind; what
does not fit is reported with the name of the shape.
-/

namespace Typeflow

open Text

inductive Record where
  | document
  | signature
  | statement
  | expression
deriving DecidableEq

inductive Shape where
  | text
  | record (kind : Record)
  | list (item : Shape)
  | map (value : Shape)
  /-- What may be missing. -/
  | optional (shape : Shape)
deriving DecidableEq

def Record.label : Record → Text
  | .document => utf8 "program.document"
  | .signature => utf8 "program.signatureDoc"
  | .statement => utf8 "program.statementDoc"
  | .expression => utf8 "program.exprDoc"

def Record.fields : Record → List (Text × Shape)
  | .document =>
    [(utf8 "builtins", .map (.record .signature)), (utf8 "program", .list (.record .statement)),
      (utf8 "expect", .map .text), (utf8 "error", .text)]
  | .signature => [(utf8 "params", .list .text), (utf8 "returns", .text)]
  | .statement =>
    [(utf8 "var", .optional .text), (utf8 "init", .optional (.record .expression)),
      (utf8 "assign", .optional .text), (utf8 "value", .optional (.record .expression))]
  | .expression =>
    [(utf8 "call", .optional .text), (utf8 "args", .list (.record .expression)),
      (utf8 "ref", .optional .text)]

def Shape.label : Shape → Text
  | .text => utf8 "string"
  | .record kind => kind.label
  | .list item => utf8 "[]" ++ item.label
  | .map value => utf8 "map[string]" ++ value.label
  | .optional shape => utf8 "*" ++ shape.label

def Shape.isNullable : Shape → Bool
  | .list _ | .map _ | .optional _ => true
  | .text | .record _ => false

inductive Value where
  | unset
  | text (content : Text)
  | list (items : List Value)
  /-- The fields of a record or the entries of a map, in the order in which they were set. -/
  | fields (entries : List (Text × Value))

namespace Value

def entries : Value → List (Text × Value)
  | .fields entries => entries
  | _ => []

def isUnset : Value → Bool
  | .unset => true
  | _ => false

/-- Sets a field; one that is set already gets the new value. -/
def set (key : Text) (value : Value) (fields : List (Text × Value)) : List (Text × Value) :=
  if fields.any (·.1 = key) then
    fields.map fun (name, old) => if name = key then (name, value) else (name, old)
  else fields ++ [(key, value)]

def field (key : Text) (value : Value) : Value :=
  ((value.entries.find? (·.1 = key)).map (·.2)).getD .unset

def toText? : Value → Option Text
  | .text content => some content
  | _ => none

/-- The text of a value; nothing is the empty text. -/
def toText (value : Value) : Text := value.toText?.getD []

def items : Value → List Value
  | .list items => items
  | _ => []

end Value

def SignatureDraft.ofValue (value : Value) : SignatureDraft where
  params := (value.field (utf8 "params")).items.map Value.toText
  returns := (value.field (utf8 "returns")).toText

namespace ExprDraft

mutual

def ofValue : Value → ExprDraft
  | .fields fields => ofFields fields
  | _ => ⟨none, [], none⟩

def ofFields : List (Text × Value) → ExprDraft
  | [] => ⟨none, [], none⟩
  | (name, value) :: rest =>
    if name = utf8 "call" then { ofFields rest with call := value.toText? }
    else if name = utf8 "ref" then { ofFields rest with ref := value.toText? }
    else if name = utf8 "args" then { ofFields rest with args := ofArgs value }
    else ofFields rest

def ofArgs : Value → List ExprDraft
  | .list items => ofItems items
  | _ => []

def ofItems : List Value → List ExprDraft
  | [] => []
  | value :: rest => ofValue value :: ofItems rest

end

def ofValue? : Value → Option ExprDraft
  | .unset => none
  | value => some (ofValue value)

end ExprDraft

def StatementDraft.ofValue (value : Value) : StatementDraft where
  var := (value.field (utf8 "var")).toText?
  init := ExprDraft.ofValue? (value.field (utf8 "init"))
  assign := (value.field (utf8 "assign")).toText?
  value := ExprDraft.ofValue? (value.field (utf8 "value"))

def Draft.ofValue (value : Value) : Draft where
  builtins :=
    match value.field (utf8 "builtins") with
    | .unset => none
    | builtins => some (builtins.entries.map fun (name, value) => (name, .ofValue value))
  program := (value.field (utf8 "program")).items.map .ofValue
  expect := (value.field (utf8 "expect")).entries.map fun (name, value) => (name, value.toText)
  error := (value.field (utf8 "error")).toText

end Typeflow
