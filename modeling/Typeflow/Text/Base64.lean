import Typeflow.Text.Basic

/-!
Bytes written in base 64. Four digits stand for three bytes; the last group is filled up with one
or two padding signs. Line ends may stand anywhere.
-/

namespace Typeflow.Base64

def digit? (byte : UInt8) : Option Nat :=
  if 0x41 ≤ byte && byte ≤ 0x5a then some (byte.toNat - 0x41)
  else if 0x61 ≤ byte && byte ≤ 0x7a then some (byte.toNat - 0x61 + 26)
  else if 0x30 ≤ byte && byte ≤ 0x39 then some (byte.toNat - 0x30 + 52)
  else if byte = 0x2b then some 62
  else if byte = 0x2f then some 63
  else none

def isPadding (byte : UInt8) : Bool := byte = 0x3d

def decodeGroups : Text → Option Text
  | [] => some []
  | a :: b :: c :: d :: rest =>
    match digit? a, digit? b, digit? c, digit? d with
    | some a, some b, some c, some d =>
      (decodeGroups rest).map fun bytes =>
        [(a * 4 + b / 16).toUInt8, (b % 16 * 16 + c / 4).toUInt8,
          (c % 4 * 64 + d).toUInt8] ++ bytes
    | some a, some b, some c, none =>
      if isPadding d && rest.isEmpty then
        some [(a * 4 + b / 16).toUInt8, (b % 16 * 16 + c / 4).toUInt8]
      else none
    | some a, some b, none, none =>
      if isPadding c && isPadding d && rest.isEmpty then some [(a * 4 + b / 16).toUInt8] else none
    | _, _, _, _ => none
  | _ => none

def decode (text : Text) : Option Text :=
  decodeGroups (text.filter fun byte => byte ≠ 0x0a && byte ≠ 0x0d)

end Typeflow.Base64
