import Typeflow.Command.Infer

/-!
The command line. Files are read before the command starts; everything else is its own work.
-/

open Typeflow

def textOfBytes (bytes : ByteArray) : Text := bytes.toList

def bytesOfText (text : Text) : ByteArray := ⟨text.toArray⟩

def readFile (path : String) : IO (Except ReadError Text) := do
  match ← (IO.FS.readBinFile path).toBaseIO with
  | .ok bytes => return .ok (textOfBytes bytes)
  | .error (.noFileOrDirectory ..) => return .error .missing
  | .error (.inappropriateType ..) => return .error .isDirectory
  | .error error => return .error (.cannotOpen (Text.utf8 (toString error)))

def isPath (arg : String) : Bool := arg ≠ "-v" && arg ≠ "-"

def main (args : List String) : IO UInt32 := do
  let files ← (args.filter isPath).mapM fun path => do
    return (Text.utf8 path, ← readFile path)
  let stdin ← if args.contains "-" then (← IO.getStdin).readBinToEnd else pure ByteArray.empty
  let read (path : Text) : Except ReadError Text :=
    ((files.find? (·.1 = path)).map (·.2)).getD (.error .missing)
  let outcome := Command.infer ⟨read, textOfBytes stdin⟩ (args.map Text.utf8)
  (← IO.getStdout).write (bytesOfText outcome.stdout)
  (← IO.getStderr).write (bytesOfText outcome.stderr)
  return outcome.exit.toUInt32
