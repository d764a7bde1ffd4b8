import Typeflow.Text.Basic

/-!
Drafts: programs as they are written down, before anything but their form has been checked. A
field that is not given is empty.
-/

namespace Typeflow

structure SignatureDraft where
  params : List Text
  returns : Text
deriving DecidableEq

structure ExprDraft where
  call : Option Text
  args : List ExprDraft
  ref : Option Text

structure StatementDraft where
  var : Option Text
  init : Option ExprDraft
  assign : Option Text
  value : Option ExprDraft

structure Draft where
  /-- The functions that a program brings with it; `none` if it relies on the usual ones. -/
  builtins : Option (List (Text × SignatureDraft))
  program : List StatementDraft
  expect : List (Text × Text)
  error : Text

end Typeflow
