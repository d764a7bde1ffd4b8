import Typeflow.Program.Run

/-!
What a command leaves behind: its exit code and the two output streams.
-/

namespace Typeflow

open Text

structure Outcome where
  exit : Nat
  stdout : Text
  stderr : Text

namespace Outcome

/-- A line of the log; it ends with one line end at least. -/
def logLine (line : Text) : Text :=
  if line.getLast? = some 0x0a then line else line ++ utf8 "\n"

def giveUp (reason : Text) : Outcome := ⟨1, [], logLine reason⟩

def breakOff (stdout : Text) : Outcome := ⟨2, stdout, []⟩

end Outcome

def Trace.forCommand (verbose : Bool) : Trace :=
  { Trace.off with channels := if verbose then Trace.all else [] }

/-- The error is a fault of the reader and not of the text. -/
def ProgramError.isFault : ProgramError → Bool
  | .draft .fault => true
  | _ => false

end Typeflow
