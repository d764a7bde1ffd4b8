import Typeflow.Dictionary
import Typeflow.Ty

/-!
Catalogues of built-in functions. A catalogue has no order of its own: its names are listed in the
order of their bytes. Defining a name again replaces its signature.
-/

namespace Typeflow

abbrev Catalogue := Dictionary Identifier Signature

namespace Catalogue

def empty : Catalogue := Dictionary.empty

def define (catalogue : Catalogue) (name : Identifier) (signature : Signature) : Catalogue :=
  catalogue.set name signature

def ofList (definitions : List (Identifier × Signature)) : Catalogue :=
  Dictionary.ofList definitions

def names (catalogue : Catalogue) : List Identifier := catalogue.sortedKeys Identifier.compare

def functions (catalogue : Catalogue) : List (Identifier × Signature) :=
  catalogue.sorted Identifier.compare

/-- The catalogue of a program that brings none: `foo` returns `int32` and `bar` returns
`uint64`. -/
def reference : Catalogue :=
  ofList [(Identifier.ofString "foo", ⟨[], Ty.named "int32"⟩),
    (Identifier.ofString "bar", ⟨[], Ty.named "uint64"⟩)]

end Catalogue

end Typeflow
