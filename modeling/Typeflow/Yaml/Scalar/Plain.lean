import Typeflow.Yaml.Scalar.Gap

/-!
Plain scalars. The text ends at a colon before white space, inside flow collections also at their
indicators, and at a comment, at the sign of a document, and at a line that is not indented
enough.
-/

namespace Typeflow.Yaml.Plain

/-- The characters up to white space or to the end of the scalar. -/
def run (flow : Bool) : List Char → List Char
  | [] => []
  | c :: rest =>
    if isSpacing c || (c = ':' && isSpacingOrEnd rest.head?) ||
        (flow && isFlowIndicator c) then []
    else c :: run flow rest

/-- Reads on after `text` and the gap behind it. The second part of the result says whether the
scalar was left at the start of a line. -/
def readFrom (flow : Bool) (indent : Nat) : Nat → Text → Gap → Scan (Text × Bool)
  | 0, text, gap => return (text, gap.broken)
  | fuel + 1, text, gap => do
    let cursor ← get
    let taken := run flow cursor.rest
    if cursor.atDocumentSign || cursor.rest.head? = some '#' || taken.isEmpty then
      return (text, gap.broken)
    else
      set (cursor.advance taken.length)
      let text := text ++ gap.text ++ textOf taken
      let gap ← Scan.gap indent .empty
      if !flow && (← get).mark.column < indent then return (text, gap.broken)
      else readFrom flow indent fuel text gap

def read (flow : Bool) (indent : Nat) : Scan (Text × Bool) := do
  readFrom flow indent ((← get).rest.length + 1) [] .empty

end Typeflow.Yaml.Plain
