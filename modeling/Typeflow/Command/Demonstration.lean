import Typeflow.Command.Outcome

/-!
A demonstration: a chain of three statements with everything that the engine traces, and some
unifications in an arena of their own.
-/

namespace Typeflow.Command

open Text

/-- `var x; var y = foo(); x = y;` -/
def chain : List Statement :=
  [.declare ⟨.ofString "x", none⟩,
    .declare ⟨.ofString "y", some (.call (.ofString "foo") [])⟩,
    .assign (.ofString "x") (.ref (.ofString "y"))]

def showChain : EStateM Failure Trace Unit := do
  let table ← resolveSymbols chain .reference
  let solution ← Typeflow.infer chain table
  Trace.write .general (solution.render ++ utf8 "\n")

def showUnify (label : String) (left right : Ty) : Unifier Unit := do
  let result := match ← attempt (Unifier.unify left right) with
    | .ok () => utf8 "<nil>"
    | .error error => error.message
  Unifier.write .general
    (utf8 label ++ utf8 ": err=" ++ result ++ utf8 " subst=" ++ (← get).arena.render ++ utf8 "\n")

def freshTy : Unifier Ty := .var <$> Unifier.fresh

def showUnifications : Unifier Unit := do
  let int32 := Ty.named "int32"
  showUnify "var = int32" (← freshTy) int32
  let result ← freshTy
  showUnify "() -> int32 = () -> ?" (.fn [] int32) (.fn [] result)
  Unifier.write .general
    (utf8 "return type: " ++ (← Unifier.query (Arena.resolve result)).render ++ utf8 "\n")
  let param ← freshTy
  let result ← freshTy
  showUnify "(a, b) -> c = (?, b) -> ?" (.fn [.named "a", .named "b"] (.named "c"))
    (.fn [param, .named "b"] result)
  let left ← freshTy
  let right ← freshTy
  showUnify "? = ?" left right
  let self ← freshTy
  showUnify "t = t" self self

/-- Everything is written on the trace, so that it stands in the order in which it happens. -/
def demonstration : Outcome :=
  match showChain (.forCommand true) with
  | .error _ trace => .breakOff trace.text
  | .ok () trace =>
    match showUnifications ⟨.empty, trace⟩ with
    | .error _ session => .breakOff session.trace.text
    | .ok () session => ⟨0, session.trace.text, []⟩

end Typeflow.Command
