import Typeflow.Text.Basic

/-!
Numbers in plain scalars. Whole numbers have up to 64 bits and may be written in four bases.
Decimal fractions may have an exponent and are numbers as long as a double can hold them.
-/

namespace Typeflow.Yaml.Number

def digitValue? (c : Char) : Option Nat :=
  if c.isDigit then some (c.toNat - 0x30)
  else if c.isLower then some (c.toNat - 0x61 + 10)
  else if c.isUpper then some (c.toNat - 0x41 + 10)
  else none

/-- The number that digits spell in a base; no digits spell zero. -/
def valueIn? (base : Nat) (digits : List Char) : Option Nat :=
  digits.foldlM (fun value c =>
    match digitValue? c with
    | some digit => if digit < base then some (value * base + digit) else none
    | none => none) 0

/-- The base that the letter after a leading zero names. -/
def baseOf? (c : Char) : Option Nat :=
  match c.toLower with
  | 'b' => some 2
  | 'o' => some 8
  | 'x' => some 16
  | _ => none

/-- A whole number without a sign. A leading zero without a letter means base eight. -/
def natural? : List Char → Option Nat
  | [] => none
  | '0' :: c :: d :: rest =>
    match baseOf? c with
    | some base => valueIn? base (d :: rest)
    | none => valueIn? 8 (c :: d :: rest)
  | '0' :: rest => valueIn? 8 rest
  | digits => valueIn? 10 digits

def splitSign : List Char → Option Bool × List Char
  | '+' :: rest => (some false, rest)
  | '-' :: rest => (some true, rest)
  | chars => (none, chars)

def fitsSigned (negative : Bool) (magnitude : Nat) : Bool :=
  if negative then magnitude ≤ Nat.pow 2 63 else magnitude < Nat.pow 2 63

/-- Binary and octal numbers with the sign behind the letter. -/
def signInside : List Char → Bool
  | '0' :: letter :: sign :: digits =>
    let base := if letter = 'b' then 2 else if letter = 'o' then 8 else 0
    (sign = '+' || sign = '-') && base ≠ 0 && !digits.isEmpty &&
      ((valueIn? base digits).map (fitsSigned (sign = '-'))).getD false
  | _ => false

/-- The text is a whole number; the value says whether a signed word holds it. -/
def integer? (chars : List Char) : Option Bool :=
  let (sign, digits) := splitSign chars
  match natural? digits with
  | some magnitude =>
    if fitsSigned (sign = some true) magnitude then some true
    else if sign = none ∧ magnitude < Nat.pow 2 64 then some false
    else none
  | none => none

/-- A decimal fraction: its digits before and after the point, and its exponent. -/
structure Decimal where
  whole : List Char
  fraction : List Char
  negativeExponent : Bool
  exponent : List Char

def exponent? : List Char → Option (Bool × List Char)
  | [] => some (false, [])
  | c :: rest =>
    let (sign, digits) := splitSign rest
    if (c = 'e' ∨ c = 'E') ∧ !digits.isEmpty ∧ digits.all Char.isDigit then
      some (sign = some true, digits)
    else none

def decimal? (chars : List Char) : Option Decimal :=
  let chars := (splitSign chars).2
  let whole := chars.takeWhile Char.isDigit
  let rest := chars.dropWhile Char.isDigit
  let (fraction, rest) := match rest with
    | '.' :: rest => (rest.takeWhile Char.isDigit, rest.dropWhile Char.isDigit)
    | rest => ([], rest)
  if whole.isEmpty && fraction.isEmpty then none
  else (exponent? rest).map fun (negative, digits) => ⟨whole, fraction, negative, digits⟩

/-- The exponent as a number. It is read up to the digit that makes it reach ten thousand. -/
def Decimal.power (decimal : Decimal) : Int :=
  let magnitude : Nat := decimal.exponent.foldl
    (fun n c => if n < 10000 then n * 10 + (c.toNat - 0x30) else n) 0
  if decimal.negativeExponent then -magnitude else magnitude

/-- The least number that a double no longer holds: from there on rounding leads beyond all of
them. -/
def overflow : Nat := Nat.pow 2 1024 - Nat.pow 2 970

/-- A double holds the number, possibly rounded. -/
def Decimal.isFinite (decimal : Decimal) : Bool :=
  let digits := (decimal.whole ++ decimal.fraction).dropWhile (· = '0')
  let mantissa := (valueIn? 10 digits).getD 0
  let power := decimal.power - (decimal.fraction.length : Int)
  let magnitude := power + (digits.length : Int)
  if mantissa = 0 ∨ magnitude < 300 then true
  else if 320 < magnitude then false
  else
    match power with
    | .ofNat n => mantissa * Nat.pow 10 n < overflow
    | .negSucc n => mantissa < overflow * Nat.pow 10 (n + 1)

def isFloat (chars : List Char) : Bool := ((decimal? chars).map Decimal.isFinite).getD false

/-- Underscores stand between digits only. `afterDigit` says what came before. -/
def underscoresSeparate : Bool → List Char → Bool
  | _, [] => true
  | afterDigit, c :: rest =>
    if c = '_' then
      afterDigit && (rest.head?.map Char.isDigit).getD false && underscoresSeparate false rest
    else underscoresSeparate c.isDigit rest

def withoutUnderscores (chars : List Char) : List Char := chars.filter (· ≠ '_')

end Typeflow.Yaml.Number
