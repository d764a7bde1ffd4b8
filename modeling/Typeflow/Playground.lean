import Typeflow.Command.Outcome

/-!
A playground in the browser: a page with a form, and the answer to what is sent with the form.
-/

namespace Typeflow.Playground

open Text

structure Response where
  status : Nat
  contentType : Text
  body : Text

def sample : Text := utf8
  "builtins:
  foo: \x7b returns: int32 \x7d
  bar: \x7b returns: uint64 \x7d
  parse: \x7b params: [string], returns: int32 \x7d
  show: \x7b params: [int32], returns: string \x7d
program:
  - var: text
  - var: n
    init: \x7b call: parse, args: [\x7b ref: text \x7d] \x7d
  - var: label
    init: \x7b call: show, args: [\x7b ref: n \x7d] \x7d
  - var: loop
    init: \x7b ref: loop \x7d
  - var: a
    init: \x7b ref: b \x7d
  - var: b
    init: \x7b ref: a \x7d
"

def pageHead : Text := utf8
  "<!DOCTYPE html>
<html>
<head>
  <meta charset=\"utf-8\">
  <title>unify playground</title>
  <style>
    body \x7b font-family: sans-serif; margin: 2em; \x7d
    textarea, pre \x7b width: 100%; font-family: monospace; \x7d
    textarea \x7b height: 24em; \x7d
  </style>
</head>
<body>
  <h1>unify playground</h1>
  <form id=\"form\">
    <textarea name=\"program\">"

def pageTail : Text := utf8
  "</textarea>
    <label><input type=\"checkbox\" name=\"trace\" value=\"1\"> trace</label>
    <button type=\"submit\">Infer</button>
  </form>
  <pre id=\"output\"></pre>
  <script>
    document.getElementById(\"form\").addEventListener(\"submit\", async (e) => \x7b
      e.preventDefault();
      const res = await fetch(\"/infer\", \x7b method: \"POST\", body: new FormData(e.target) \x7d);
      document.getElementById(\"output\").textContent = await res.text();
    \x7d);
  </script>
</body>
</html>
"

def index : Response := ⟨200, utf8 "text/html; charset=utf-8", pageHead ++ sample ++ pageTail⟩

def badRequest (reason : Text) : Response :=
  ⟨400, utf8 "text/plain; charset=utf-8", reason ++ utf8 "\n"⟩

def firstField (fields : List (Text × Text)) (name : String) : Text :=
  ((fields.find? (·.1 = utf8 name)).map (·.2)).getD []

/-- Answers with the report of a program, and with the trace before it if one is wanted. -/
def answer (program : Program) (verbose : Bool) : Except Fault Response :=
  let plain (body : Text) : Response := ⟨200, utf8 "text/plain", body⟩
  match program.run (.forCommand verbose) with
  | .ok report trace => .ok (plain (trace.text ++ report.render))
  | .error (.error error) trace =>
    .ok (plain (trace.text ++ utf8 "ERROR (" ++ error.kind.text ++ utf8 "): " ++ error.message ++
      utf8 "\n"))
  | .error (.fault fault) _ => .error fault

/-- Answers what is sent with the form; `none` stands for a request of another kind. -/
def infer (fields : Option (List (Text × Text))) : Except Fault Response :=
  match fields with
  | none => .ok (badRequest (utf8 "request Content-Type isn't multipart/form-data"))
  | some fields =>
    match Program.parse (firstField fields "program") with
    | .error error =>
      if error.isFault then .error .outOfRange else .ok (badRequest error.message)
    | .ok program => answer program !(firstField fields "trace").isEmpty

end Typeflow.Playground
