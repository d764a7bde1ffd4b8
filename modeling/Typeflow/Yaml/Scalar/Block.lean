import Typeflow.Yaml.Cursor

/-!
Block scalars. A header gives the style, what happens to the line ends at the end, and possibly
the indentation; otherwise the first line that is not empty decides it. A literal scalar keeps its
lines. A folded one joins lines with a space, unless one of them starts with a blank.
-/

namespace Typeflow.Yaml.Block

inductive Chomping where
  | clip
  | strip
  | keep
deriving DecidableEq

structure Header where
  chomping : Chomping
  /-- The given indentation; zero if none is given. -/
  increment : Nat

def chomping : Scan Chomping := do
  match ← Scan.peek 0 with
  | some '+' =>
    Scan.skip 1
    return .keep
  | some '-' =>
    Scan.skip 1
    return .strip
  | _ => return .clip

def increment : Scan Nat := do
  match ← Scan.peek 0 with
  | some c =>
    if c.isDigit then
      Scan.require (c ≠ '0')
      Scan.skip 1
      return c.toNat - 0x30
    else return 0
  | none => return 0

def header : Scan Header := do
  let before ← chomping
  let increment ← increment
  let chomping ← if before = .clip ∧ increment ≠ 0 then chomping else pure before
  Scan.finishLine
  return ⟨chomping, increment⟩

/-- Passes over empty lines and the indentation after them. `indent` is zero as long as it is not
known. The result is the line ends and the greatest column reached. -/
def breaks (indent : Nat) : Nat → Text → Nat → Scan (Text × Nat)
  | 0, text, widest => return (text, widest)
  | fuel + 1, text, widest => do
    let cursor ← get
    let spaces := (cursor.rest.takeWhile (· = ' ')).length
    Scan.skip (if indent = 0 then spaces else min spaces (indent - cursor.mark.column))
    let column := (← get).mark.column
    let next ← Scan.peek 0
    Scan.require !((indent = 0 || column < indent) && next = some '\t')
    if (next.map isBreak).getD false then
      let text := text ++ (← Scan.takeBreak)
      breaks indent fuel text (max widest column)
    else return (text, max widest column)

/-- Passes over empty lines, all of them if there is room for it. -/
def skipBreaks (indent : Nat) : Scan (Text × Nat) := do
  breaks indent ((← get).rest.length + 1) [] 0

/-- What has been read of a block scalar: the text, the last line end and the ends of the empty
lines behind it, and whether the last line starts with a blank. -/
structure Progress where
  text : Text
  lineEnd : Text
  emptyLines : Text
  blankStart : Bool

def Progress.joined (progress : Progress) (literal blankStart : Bool) : Text :=
  let fold := !literal && !progress.blankStart && !blankStart &&
    progress.lineEnd.head? = some 0x0a
  let lineEnd :=
    if fold then if progress.emptyLines.isEmpty then [0x20] else [] else progress.lineEnd
  progress.text ++ lineEnd ++ progress.emptyLines

def lines (literal : Bool) (indent : Nat) : Nat → Progress → Scan Progress
  | 0, progress => return progress
  | fuel + 1, progress => do
    match ← Scan.peek 0 with
    | some c =>
      if (← get).mark.column = indent then
        let text := progress.joined literal (isBlank c)
        let line ← Scan.takeWhile (! isBreak ·)
        let lineEnd ← Scan.takeBreak
        let (emptyLines, _) ← skipBreaks indent
        lines literal indent fuel ⟨text ++ textOf line, lineEnd, emptyLines, isBlank c⟩
      else return progress
    | none => return progress

def read (literal : Bool) (level : Nat) : Scan Text := do
  Scan.skip 1
  let header ← header
  let given := if header.increment = 0 then 0 else level - 1 + header.increment
  let (emptyLines, widest) ← skipBreaks given
  let indent := if given = 0 then max (max widest level) 1 else given
  let progress ← lines literal indent ((← get).rest.length + 1) ⟨[], [], emptyLines, false⟩
  match header.chomping with
  | .strip => return progress.text
  | .clip => return progress.text ++ progress.lineEnd
  | .keep => return progress.text ++ progress.lineEnd ++ progress.emptyLines

end Typeflow.Yaml.Block
