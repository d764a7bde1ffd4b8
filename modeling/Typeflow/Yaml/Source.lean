import Typeflow.Text.Encoding
import Typeflow.Yaml.Character

/-!
The characters of YAML text. A mark at the start tells the encoding and is passed over. The text
is loaded in stretches of bytes, and a stretch is checked as a whole: where a character is not
allowed or not well formed, the characters of its stretch can no longer be read.
-/

namespace Typeflow.Yaml

structure Source where
  chars : List Char
  intact : Bool
  /-- The number of characters in the first stretch. -/
  firstStretch : Nat

namespace Source

/-- The number of bytes that are loaded at once. -/
def stretch : Nat := 512

/-- A character of the text with the number of bytes it takes; `none` if it is not allowed. -/
abbrev Piece := Option Char × Nat

def pieceOf (code width : Nat) : Piece :=
  if isAllowed code then (some (Char.ofNat code), width) else (none, width)

def piecesOfUtf8 (text : Text) : List Piece :=
  text.glyphs.map fun
    | .scalar code => pieceOf code (Text.encode code).length
    | .stray _ => (none, 1)

/-- The pieces of 16-bit units. A surrogate without its partner and a byte that is no unit are not
allowed; `paired` passes over the second half of a pair. -/
def piecesOfUnits : Bool → List (Option Nat) → List Piece
  | _, [] => []
  | true, _ :: rest => piecesOfUnits false rest
  | false, none :: _ => [(none, 1)]
  | false, some unit :: rest =>
    if Encoding.isSurrogate unit then
      match rest.head? with
      | some (some low) =>
        if !Encoding.isTrailing unit && Encoding.isTrailing low then
          pieceOf (Encoding.pairCode unit low) 4 :: piecesOfUnits true rest
        else [(none, 2)]
      | _ => [(none, 2)]
    else pieceOf unit 2 :: piecesOfUnits false rest

def piecesOfUtf16 (littleEndian : Bool) (text : Text) : List Piece :=
  piecesOfUnits false (Encoding.units littleEndian text)

/-- The pieces of a text behind the mark that tells its encoding, and the length of the mark. -/
def pieces : Text → List Piece × Nat
  | 0xef :: 0xbb :: 0xbf :: rest => (piecesOfUtf8 rest, 3)
  | 0xff :: 0xfe :: rest => (piecesOfUtf16 true rest, 2)
  | 0xfe :: 0xff :: rest => (piecesOfUtf16 false rest, 2)
  | text => (piecesOfUtf8 text, 0)

/-- How many characters stand in the first stretch, which has `room` for so many bytes. -/
def countFirst : Nat → List Piece → Nat
  | room, (some _, width) :: rest =>
    if width ≤ room then countFirst (room - width) rest + 1 else 0
  | _, _ => 0

/-- How many characters stand in stretches before the first piece that is not allowed; `none` if
there is no such piece. `before` counts earlier stretches and `count` the current one, in which
there is `room` left. -/
def countSound : Nat → Nat → Nat → List Piece → Option Nat
  | _, _, _, [] => none
  | before, count, room, (char, width) :: rest =>
    if width ≤ room then
      match char with
      | some _ => countSound before (count + 1) (room - width) rest
      | none => some before
    else
      match char with
      | some _ => countSound (before + count) 1 (stretch - width) rest
      | none => some (before + count)

/-- Reads a text. One without any byte is read as one empty line. -/
def ofText (text : Text) : Source :=
  let (pieces, skipped) := pieces (if text.isEmpty then [0x0a] else text)
  let chars := pieces.filterMap (·.1)
  let firstStretch := countFirst (stretch - skipped) pieces
  match countSound 0 0 (stretch - skipped) pieces with
  | some sound => ⟨chars.take sound, false, firstStretch⟩
  | none => ⟨chars, true, firstStretch⟩

end Source

end Typeflow.Yaml
