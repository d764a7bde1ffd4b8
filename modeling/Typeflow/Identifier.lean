import Typeflow.Text.Normal

/-!
Names of a program. A name is kept in composed normal form, so that the composed and the
decomposed spelling of a name denote the same symbol. Names are ordered by their bytes.
-/

namespace Typeflow

structure Identifier where
  text : Text
deriving DecidableEq

namespace Identifier

def ofText (text : Text) : Identifier := ⟨text.normalize⟩

def ofString (s : String) : Identifier := ofText (Text.utf8 s)

def isEmpty (name : Identifier) : Bool := name.text.isEmpty

def compare (a b : Identifier) : Ordering := Text.compare a.text b.text

end Identifier

end Typeflow
