import Typeflow.Text.Glyph

/-!
Decoding of stored documents. A byte order mark names the encoding and is dropped. Without one the
document is UTF-8, and each maximal part of an ill-formed sequence becomes one replacement
character. Behind a UTF-8 mark the bytes are taken as they stand.
-/

namespace Typeflow.Encoding

open Text Glyph

def replacement : Nat := 0xfffd

/-- How many bytes of `rest` belong to the ill-formed sequence that `lead` begins. -/
def illFormed (lead : UInt8) (rest : Text) : Nat :=
  match width? lead, rest with
  | some 3, b :: _ =>
    if (secondRange lead).1 ≤ b && b ≤ (secondRange lead).2 then 1 else 0
  | some 4, b :: rest =>
    if (secondRange lead).1 ≤ b && b ≤ (secondRange lead).2 then
      match rest with
      | c :: _ => if continues c then 2 else 1
      | [] => 1
    else 0
  | _, _ => 0

/-- Repairs after passing over `skipped` bytes. -/
def repairFrom : Nat → Text → Text
  | _, [] => []
  | skipped + 1, _ :: rest => repairFrom skipped rest
  | 0, lead :: rest =>
    match character? lead rest with
    | some (code, taken) => encode code ++ repairFrom taken rest
    | none => encode replacement ++ repairFrom (illFormed lead rest) rest

def repair (text : Text) : Text := repairFrom 0 text

/-- Two bytes to a unit; a single byte at the end has no unit. -/
def units (littleEndian : Bool) : Text → List (Option Nat)
  | [] => []
  | [_] => [none]
  | a :: b :: rest =>
    let unit := if littleEndian then b.toNat * 256 + a.toNat else a.toNat * 256 + b.toNat
    some unit :: units littleEndian rest

def isSurrogate (unit : Nat) : Bool := 0xd800 ≤ unit && unit ≤ 0xdfff

def isTrailing (unit : Nat) : Bool := 0xdc00 ≤ unit && unit ≤ 0xdfff

/-- Two surrogates are a character only if the first one leads. -/
def pairCode (first second : Nat) : Nat :=
  if isTrailing first then replacement
  else 0x10000 + (first - 0xd800) * 1024 + (second - 0xdc00)

/-- A surrogate takes a trailing surrogate after it along; `paired` passes over that one. -/
def codesOfUnits : Bool → List (Option Nat) → List Nat
  | _, [] => []
  | true, _ :: rest => codesOfUnits false rest
  | false, none :: rest => replacement :: codesOfUnits false rest
  | false, some unit :: rest =>
    match isSurrogate unit, rest.head? with
    | true, some (some second) =>
      if isTrailing second then pairCode unit second :: codesOfUnits true rest
      else replacement :: codesOfUnits false rest
    | true, _ => replacement :: codesOfUnits false rest
    | false, _ => unit :: codesOfUnits false rest

def ofUtf16 (littleEndian : Bool) (text : Text) : Text :=
  (codesOfUnits false (units littleEndian text)).flatMap encode

def decode : Text → Text
  | 0xff :: 0xfe :: rest => ofUtf16 true rest
  | 0xfe :: 0xff :: rest => ofUtf16 false rest
  | 0xef :: 0xbb :: 0xbf :: rest => rest
  | text => repair text

end Typeflow.Encoding
