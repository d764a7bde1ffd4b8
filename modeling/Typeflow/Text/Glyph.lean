import Typeflow.Text.Basic

/-!
Text as a sequence of glyphs. A glyph is a character in well-formed UTF-8 or a single byte that
begins none. Reading never fails, and writing the glyphs of a text gives the text back.
-/

namespace Typeflow

inductive Glyph where
  | scalar (code : Nat)
  | stray (byte : UInt8)
deriving DecidableEq

namespace Glyph

def bytes : Glyph → Text
  | scalar code => Text.encode code
  | stray byte => [byte]

def continues (byte : UInt8) : Bool := 0x80 ≤ byte && byte ≤ 0xbf

def payload (byte : UInt8) : Nat := byte.toNat % 64

/-- The bytes that may stand second after `lead`: surrogates, overlong forms and codes above the
last plane are excluded here. -/
def secondRange (lead : UInt8) : UInt8 × UInt8 :=
  if lead = 0xe0 then (0xa0, 0xbf)
  else if lead = 0xed then (0x80, 0x9f)
  else if lead = 0xf0 then (0x90, 0xbf)
  else if lead = 0xf4 then (0x80, 0x8f)
  else (0x80, 0xbf)

/-- How many bytes a character that begins with `lead` has; `none` if none begins so. -/
def width? (lead : UInt8) : Option Nat :=
  if lead < 0x80 then some 1
  else if lead < 0xc2 then none
  else if lead < 0xe0 then some 2
  else if lead < 0xf0 then some 3
  else if lead < 0xf5 then some 4
  else none

/-- The character that `lead` begins and the number of bytes it takes from `rest`. -/
def character? (lead : UInt8) (rest : Text) : Option (Nat × Nat) :=
  match width? lead, rest with
  | some 1, _ => some (lead.toNat, 0)
  | some 2, b :: _ =>
    if continues b then some (lead.toNat % 32 * 64 + payload b, 1) else none
  | some 3, b :: c :: _ =>
    if (secondRange lead).1 ≤ b && b ≤ (secondRange lead).2 && continues c then
      some (lead.toNat % 16 * 4096 + payload b * 64 + payload c, 2)
    else none
  | some 4, b :: c :: d :: _ =>
    if (secondRange lead).1 ≤ b && b ≤ (secondRange lead).2 && continues c && continues d then
      some (lead.toNat % 8 * 262144 + payload b * 4096 + payload c * 64 + payload d, 3)
    else none
  | _, _ => none

/-- Reads after passing over `skipped` bytes that belong to the character before. -/
def readFrom : Nat → Text → List Glyph
  | _, [] => []
  | skipped + 1, _ :: rest => readFrom skipped rest
  | 0, lead :: rest =>
    match character? lead rest with
    | some (code, taken) => scalar code :: readFrom taken rest
    | none => stray lead :: readFrom 0 rest

end Glyph

namespace Text

def glyphs (text : Text) : List Glyph := Glyph.readFrom 0 text

def ofGlyphs (glyphs : List Glyph) : Text := glyphs.flatMap Glyph.bytes

/-- The text as a string, each stray byte written as the replacement character. -/
def toDisplay (text : Text) : String :=
  String.ofList (text.glyphs.map fun
    | .scalar code => Char.ofNat code
    | .stray _ => Char.ofNat 0xfffd)

end Text

end Typeflow
