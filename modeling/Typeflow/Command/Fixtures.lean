import Typeflow.Command.Files
import Typeflow.Command.Outcome

/-!
The command that checks fixtures: the programs of a directory, each with the outcome that it
expects. The name of a fixture says whether it expects an error.
-/

namespace Typeflow.Command

open Text

structure Directory where
  list : Text → Option (List DirectoryEntry)
  read : Text → Except ReadError Text

/-- The switch for the trace and the directory, which is the last argument that is no switch. -/
def fixtureArguments (args : List Text) : Bool × Text :=
  args.foldl (fun (verbose, path) arg =>
    if arg = utf8 "-v" then (true, path) else (verbose, arg)) (false, utf8 "tests")

def isFixture (entry : DirectoryEntry) : Bool :=
  !entry.isDirectory && Path.extension entry.name = utf8 ".yaml"

def nameProblem? (name : Text) (program : Program) : Option Text :=
  if (utf8 "fail_").isPrefixOf name then
    if program.error.isEmpty then some (utf8 "fail_ fixture without an expected error kind")
    else none
  else if (utf8 "pass_").isPrefixOf name then
    if program.error.isEmpty then none else some (utf8 "pass_ fixture expects an error")
  else some (utf8 "unexpected file")

/-- The content of a fixture as a program, or what is wrong with it. -/
def loadFixture (directory : Directory) (path : Text) : Except Outcome (Except Text Program) :=
  match directory.read path with
  | .error error => .ok (.error (error.message path))
  | .ok content =>
    match Program.parse content with
    | .ok program => .ok (.ok program)
    | .error error =>
      if error.isFault then .error (.breakOff [])
      else .ok (.error (path ++ utf8 ": " ++ error.message))

def checkFixture (directory : Directory) (verbose : Bool) (path name : Text) :
    Except Outcome (Text × Option Text) := do
  match ← loadFixture directory (Path.join path name) with
  | .error problem => return ([], some problem)
  | .ok program =>
    match nameProblem? name program with
    | some problem => return ([], some problem)
    | none =>
      match program.verify (.forCommand verbose) with
      | .ok (.ok ()) trace => return (trace.text, none)
      | .ok (.error discrepancy) trace => return (trace.text, some discrepancy.message)
      | .error _ trace => throw (.breakOff trace.text)

/-- Checks one fixture after others, of which some have failed. -/
def nextFixture (directory : Directory) (verbose : Bool) (path : Text) (before : Text × Nat)
    (name : Text) : Except Outcome (Text × Nat) :=
  let (stdout, failed) := before
  match checkFixture directory verbose path name with
  | .ok (written, none) => .ok (stdout ++ written ++ utf8 "ok   " ++ name ++ utf8 "\n", failed)
  | .ok (written, some problem) =>
    .ok (stdout ++ written ++ utf8 "FAIL " ++ name ++ utf8 ": " ++ problem ++ utf8 "\n",
      failed + 1)
  | .error outcome => .error { outcome with stdout := stdout ++ outcome.stdout }

def fixtures (directory : Directory) (args : List Text) : Outcome :=
  let (verbose, path) := fixtureArguments args
  match directory.list path with
  | none => .breakOff []
  | some entries =>
    let names := (entries.filter isFixture).map (·.name)
    match names.foldlM (nextFixture directory verbose path) (([] : Text), 0) with
    | .error outcome => outcome
    | .ok (stdout, 0) => ⟨0, stdout, []⟩
    | .ok (stdout, failed) => ⟨1, stdout ++ ofNat failed ++ utf8 " failed\n", []⟩

end Typeflow.Command
