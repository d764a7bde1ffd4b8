/-!
Points in time in plain scalars: a date, alone or with a time of day. After a letter the time
needs a zone, after spaces it has none.
-/

namespace Typeflow.Yaml.Timestamp

def isLeap (year : Nat) : Bool := year % 4 = 0 && (year % 100 ≠ 0 || year % 400 = 0)

def daysIn (year month : Nat) : Nat :=
  if month = 2 then if isLeap year then 29 else 28
  else if month ∈ [4, 6, 9, 11] then 30
  else 31

def value (digits : List Char) : Nat := digits.foldl (fun n c => n * 10 + (c.toNat - 0x30)) 0

def number? (chars : List Char) : Option (Nat × List Char) :=
  match (chars.take 2).takeWhile Char.isDigit with
  | [] => none
  | digits => some (value digits, chars.drop digits.length)

def expect? (c : Char) : List Char → Option (List Char)
  | d :: rest => if c = d then some rest else none
  | [] => none

/-- Reads the date; the year has four digits. -/
def date? (chars : List Char) : Option (List Char) := do
  let year := chars.takeWhile Char.isDigit
  if year.length ≠ 4 then none
  else
    let rest ← expect? '-' (chars.drop 4)
    let (month, rest) ← number? rest
    let rest ← expect? '-' rest
    let (day, rest) ← number? rest
    if 1 ≤ month ∧ month ≤ 12 ∧ 1 ≤ day ∧ day ≤ daysIn (value year) month then some rest else none

/-- Passes over a fraction of a second if there is one. -/
def skipFraction : List Char → List Char
  | point :: digit :: rest =>
    if (point = '.' ∨ point = ',') ∧ digit.isDigit then rest.dropWhile Char.isDigit
    else point :: digit :: rest
  | chars => chars

def time? (chars : List Char) : Option (List Char) := do
  let (hour, rest) ← number? chars
  let rest ← expect? ':' rest
  let (minute, rest) ← number? rest
  let rest ← expect? ':' rest
  let (second, rest) ← number? rest
  if hour < 24 ∧ minute < 60 ∧ second < 60 then some (skipFraction rest) else none

/-- The text is a zone: the letter of universal time or a distance from it. -/
def isZone : List Char → Bool
  | ['Z'] => true
  | [sign, a, b, ':', c, d] =>
    (sign = '+' || sign = '-') && [a, b, c, d].all Char.isDigit && value [a, b] ≤ 24 &&
      value [c, d] ≤ 60
  | _ => false

def isTimestamp (chars : List Char) : Bool :=
  match date? chars with
  | some [] => true
  | some (c :: rest) =>
    if c = 'T' ∨ c = 't' then ((time? rest).map isZone).getD false
    else if c = ' ' then ((time? (rest.dropWhile (· = ' '))).map List.isEmpty).getD false
    else false
  | none => false

end Typeflow.Yaml.Timestamp
