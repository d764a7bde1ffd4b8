import Typeflow.Yaml.Scalar.Gap

/-!
Quoted scalars. Between single quotes only the quote is special and is written twice. Between
double quotes a backslash starts an escape, and before a line end it removes the end.
-/

namespace Typeflow.Yaml.Quoted

def shortEscapes : List (Char × Nat) :=
  [('0', 0), ('a', 7), ('b', 8), ('t', 9), ('\t', 9), ('n', 10), ('v', 11), ('f', 12), ('r', 13),
    ('e', 27), (' ', 32), ('"', 34), ('\'', 39), ('\\', 92), ('N', 0x85), ('_', 0xa0),
    ('L', 0x2028), ('P', 0x2029)]

/-- How many digits follow the letter of a numeric escape. -/
def escapeLength? (c : Char) : Option Nat :=
  if c = 'x' then some 2 else if c = 'u' then some 4 else if c = 'U' then some 8 else none

def hexValue? (digits : List Char) : Option Nat :=
  digits.foldlM (fun value c => (hexDigit? c).map (value * 16 + ·)) 0

def escape : Scan Text := do
  match ← Scan.peek 1 with
  | some c =>
    match shortEscapes.find? (·.1 = c), escapeLength? c with
    | some (_, code), _ =>
      Scan.skip 2
      return Text.encode code
    | none, some length =>
      Scan.skip 2
      let digits := (← get).rest.take length
      Scan.require (digits.length = length)
      match hexValue? digits with
      | some code =>
        Scan.require !((0xd800 ≤ code && code ≤ 0xdfff) || 0x10ffff < code)
        Scan.skip length
        return Text.encode code
      | none => failure
    | none, none => failure
  | none => failure

/-- Reads between single quotes up to white space or to the closing quote. -/
def singleRun : Nat → Text → Scan Text
  | 0, text => return text
  | fuel + 1, text => do
    match ← Scan.peek 0, ← Scan.peek 1 with
    | some '\'', some '\'' =>
      Scan.skip 2
      singleRun fuel (text ++ [0x27])
    | some '\'', _ | none, _ => return text
    | some c, _ =>
      if isSpacing c then return text
      else
        Scan.skip 1
        singleRun fuel (text ++ textOf [c])

/-- Reads between double quotes up to white space, to the closing quote or over an escaped line
end, and says whether it was the last of these. -/
def doubleRun : Nat → Text → Scan (Text × Bool)
  | 0, text => return (text, false)
  | fuel + 1, text => do
    match ← Scan.peek 0 with
    | some '"' | none => return (text, false)
    | some '\\' =>
      if ((← Scan.peek 1).map isBreak).getD false then
        Scan.skip 1
        Scan.skipBreak
        return (text, true)
      else doubleRun fuel (text ++ (← escape))
    | some c =>
      if isSpacing c then return (text, false)
      else
        Scan.skip 1
        doubleRun fuel (text ++ textOf [c])

def readFrom (quote : Char) : Nat → Text → Scan Text
  | 0, _ => failure
  | fuel + 1, text => do
    let cursor ← get
    Scan.require (!cursor.atDocumentSign && !cursor.rest.isEmpty)
    let (text, joined) ←
      if quote = '"' then doubleRun cursor.rest.length text
      else (·, false) <$> singleRun cursor.rest.length text
    if (← Scan.peek 0) = some quote then
      Scan.skip 1
      return text
    else
      let gap ← Scan.gap 0 (if joined then .joined else .empty)
      readFrom quote fuel (text ++ gap.text)

def read (quote : Char) : Scan Text := do
  Scan.skip 1
  readFrom quote ((← get).rest.length + 1) []

end Typeflow.Yaml.Quoted
