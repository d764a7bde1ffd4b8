import Typeflow.Yaml.Character

/-!
Reading characters one after another, with the place in the text. Lines and columns are counted
from zero; a carriage return and a line feed together are one break.
-/

namespace Typeflow.Yaml

structure Mark where
  index : Nat
  line : Nat
  column : Nat

structure Cursor where
  rest : List Char
  mark : Mark
  /-- Line breaks since the last character that is no blank. -/
  breaks : Nat

namespace Cursor

def advance (cursor : Cursor) (count : Nat) : Cursor :=
  { rest := cursor.rest.drop count
    mark := { cursor.mark with
      index := cursor.mark.index + count
      column := cursor.mark.column + count }
    breaks := if (cursor.rest.take count).all isBlank then cursor.breaks else 0 }

/-- The mark after a break of the given number of characters. -/
def nextLine (cursor : Cursor) (count : Nat) : Cursor :=
  { rest := cursor.rest.drop count
    mark := ⟨cursor.mark.index + count, cursor.mark.line + 1, 0⟩
    breaks := cursor.breaks + 1 }

/-- Reads a line break. All kinds become a line feed but the two separators, which stay. -/
def takeBreak (cursor : Cursor) : Text × Cursor :=
  match cursor.rest with
  | '\r' :: '\n' :: _ => ([0x0a], cursor.nextLine 2)
  | c :: _ =>
    if c = '\u2028' ∨ c = '\u2029' then (textOf [c], cursor.nextLine 1)
    else if isBreak c then ([0x0a], cursor.nextLine 1)
    else ([], cursor)
  | [] => ([], cursor)

def atDocumentSign (cursor : Cursor) : Bool :=
  cursor.mark.column = 0 &&
    (match cursor.rest with
      | a :: b :: c :: rest =>
        (a = '-' && b = '-' && c = '-' || a = '.' && b = '.' && c = '.') &&
          isSpacingOrEnd rest.head?
      | _ => false)

end Cursor

/-- A reader of characters that may find something it cannot accept. -/
abbrev Scan := StateT Cursor Option

namespace Scan

def peek (offset : Nat) : Scan (Option Char) := return (← get).rest[offset]?

def skip (count : Nat) : Scan Unit := modify (·.advance count)

def takeWhile (accepts : Char → Bool) : Scan (List Char) := do
  let cursor ← get
  let taken := cursor.rest.takeWhile accepts
  set (cursor.advance taken.length)
  return taken

def skipWhile (accepts : Char → Bool) : Scan Unit := discard (takeWhile accepts)

def takeBreak : Scan Text := do
  let (text, cursor) := (← get).takeBreak
  set cursor
  return text

def skipBreak : Scan Unit := discard takeBreak

def expect (c : Char) : Scan Unit := do
  if (← peek 0) = some c then skip 1 else failure

def require (condition : Bool) : Scan Unit := if condition then return () else failure

/-- Passes over the rest of a line that holds blanks and a comment only, and over its end. -/
def finishLine : Scan Unit := do
  skipWhile isBlank
  if (← peek 0) = some '#' then skipWhile (! isBreak ·)
  require (isBreakOrEnd (← peek 0))
  skipBreak

end Scan

end Typeflow.Yaml
