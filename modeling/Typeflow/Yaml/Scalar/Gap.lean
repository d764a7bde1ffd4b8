import Typeflow.Yaml.Cursor

/-!
The white space inside a scalar. Blanks within a line stand for themselves. A line break and the
blanks around it become one space, and further breaks stay as they are; a separator is never
turned into a space.
-/

namespace Typeflow.Yaml

structure Gap where
  blanks : Text
  broken : Bool
  first : Text
  more : Text

namespace Gap

def empty : Gap := ⟨[], false, [], []⟩

/-- A gap that begins with a line end that leaves no trace. -/
def joined : Gap := ⟨[], true, [], []⟩

def text (gap : Gap) : Text :=
  if gap.broken then
    if gap.first.head? = some 0x0a then
      if gap.more.isEmpty then [0x20] else gap.more
    else gap.first ++ gap.more
  else gap.blanks

/-- Reads on in a gap. A tab at the start of a line may not stand before the column `indent`. -/
def read (indent : Nat) : Nat → Gap → Scan Gap
  | 0, gap => return gap
  | fuel + 1, gap => do
    match ← Scan.peek 0 with
    | some c =>
      if isBlank c then
        if gap.broken then
          Scan.require !(c = '\t' && (← get).mark.column < indent)
          Scan.skip 1
          read indent fuel gap
        else
          Scan.skip 1
          read indent fuel { gap with blanks := gap.blanks ++ textOf [c] }
      else if isBreak c then
        let text ← Scan.takeBreak
        if gap.broken then read indent fuel { gap with more := gap.more ++ text }
        else read indent fuel { gap with blanks := [], broken := true, first := text }
      else return gap
    | none => return gap

end Gap

def Scan.gap (indent : Nat) (start : Gap) : Scan Gap := do
  Gap.read indent (← get).rest.length start

end Typeflow.Yaml
