/-!
Text is a list of bytes. Most of it is UTF-8, but names and type sources may hold bytes that
encode no character, and order is the order of bytes, so bytes are what everything is built on.
-/

namespace Typeflow

abbrev Text := List UInt8

namespace Text

def encode (code : Nat) : Text :=
  if code < 0x80 then [code.toUInt8]
  else if code < 0x800 then [(0xc0 + code / 64).toUInt8, (0x80 + code % 64).toUInt8]
  else if code < 0x10000 then
    [(0xe0 + code / 4096).toUInt8, (0x80 + code / 64 % 64).toUInt8, (0x80 + code % 64).toUInt8]
  else
    [(0xf0 + code / 262144).toUInt8, (0x80 + code / 4096 % 64).toUInt8,
      (0x80 + code / 64 % 64).toUInt8, (0x80 + code % 64).toUInt8]

/-- The order of bytes. -/
def compare (a b : Text) : Ordering :=
  if a < b then .lt else if b < a then .gt else .eq

def utf8 (s : String) : Text := s.toList.flatMap fun c => encode c.toNat

def join (separator : Text) (parts : List Text) : Text := List.intercalate separator parts

def ofNat (n : Nat) : Text := (Nat.toDigits 10 n).flatMap fun c => encode c.toNat

def ofInt : Int → Text
  | .ofNat n => ofNat n
  | .negSucc n => utf8 "-" ++ ofNat (n + 1)

/-- A number in lower-case hexadecimal digits, filled with zeros up to `width`. -/
def ofHex (width n : Nat) : Text :=
  let digits := (Nat.toDigits 16 n).flatMap fun c => encode c.toNat
  List.replicate (width - digits.length) 0x30 ++ digits

/-- The first line, without its end. -/
def firstLine (text : Text) : Text := text.takeWhile (· ≠ 0x0a)

end Text

end Typeflow
