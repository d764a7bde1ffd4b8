import Typeflow.Text.Glyph
import Typeflow.Text.Printable

/-!
Quoted text for messages. Printable characters stand for themselves, a quote and a backslash are
escaped, and everything else is written as an escape, stray bytes byte by byte.
-/

namespace Typeflow.Text

def controlEscapes : List (Nat × String) :=
  [(7, "a"), (8, "b"), (9, "t"), (10, "n"), (11, "v"), (12, "f"), (13, "r")]

def quoteScalar (code : Nat) : Text :=
  if code == 0x22 || code == 0x5c then 0x5c :: encode code
  else if isPrintable code then encode code
  else
    match controlEscapes.find? (·.1 == code) with
    | some (_, letter) => 0x5c :: utf8 letter
    | none =>
      if code < 0x80 then utf8 "\\x" ++ ofHex 2 code
      else if code < 0x10000 then utf8 "\\u" ++ ofHex 4 code
      else utf8 "\\U" ++ ofHex 8 code

def quoteGlyph : Glyph → Text
  | .scalar code => quoteScalar code
  | .stray byte => utf8 "\\x" ++ ofHex 2 byte.toNat

def quote (text : Text) : Text := utf8 "\"" ++ text.glyphs.flatMap quoteGlyph ++ utf8 "\""

end Typeflow.Text
