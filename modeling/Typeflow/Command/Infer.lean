import Typeflow.Command.Files
import Typeflow.Command.Outcome

/-!
The command that infers the types of programs. All programs are read before the first one is run.
-/

namespace Typeflow.Command

open Text

structure Input where
  read : Text → Except ReadError Text
  stdin : Text

/-- What the arguments have brought so far. -/
structure Session where
  verbose : Bool
  stdin : Text
  /-- The programs with the names under which they are reported. -/
  programs : List (Text × Program)

def parseOrStop (name content : Text) : Except Outcome Program :=
  match Program.parse content with
  | .ok program => .ok program
  | .error error =>
    if error.isFault then .error (.breakOff [])
    else .error (.giveUp (name ++ utf8 ": " ++ error.message))

/-- Takes one argument: the switch for the trace, a dash for the standard input, or a path. -/
def takeArgument (read : Text → Except ReadError Text) (session : Session) (arg : Text) :
    Except Outcome Session := do
  if arg = utf8 "-v" then return { session with verbose := true }
  else if arg = utf8 "-" then
    let program ← parseOrStop (utf8 "stdin") session.stdin
    return { session with stdin := [], programs := session.programs ++ [(utf8 "stdin", program)] }
  else
    match read arg with
    | .error error => throw (.giveUp (error.message arg))
    | .ok content =>
      let program ← parseOrStop arg content
      return { session with programs := session.programs ++ [(arg, program)] }

/-- Runs one program and adds what it says to the outcome. A program that fails does not stop the
others. -/
def runProgram (verbose : Bool) (outcome : Outcome) (entry : Text × Program) :
    Except Outcome Outcome :=
  let (name, program) := entry
  let stdout := outcome.stdout ++ utf8 "=== " ++ name ++ utf8 " ===\n"
  match program.run (.forCommand verbose) with
  | .ok report trace => .ok { outcome with stdout := stdout ++ trace.text ++ report.render }
  | .error (.error error) trace =>
    .ok
      { exit := 1
        stdout := stdout ++ trace.text
        stderr := outcome.stderr ++ Outcome.logLine
          (name ++ utf8 ": " ++ error.message ++ utf8 " (" ++ error.kind.text ++ utf8 ")") }
  | .error (.fault _) trace => .error (.breakOff (stdout ++ trace.text))

def infer (input : Input) (args : List Text) : Outcome :=
  let run : Except Outcome Outcome := do
    let session ← args.foldlM (takeArgument input.read) ⟨false, input.stdin, []⟩
    if session.programs.isEmpty then
      throw (.giveUp (utf8 "usage: main [-v] (file.yaml | -)..."))
    session.programs.foldlM (runProgram session.verbose) ⟨0, [], []⟩
  match run with
  | .ok outcome | .error outcome => outcome

end Typeflow.Command
