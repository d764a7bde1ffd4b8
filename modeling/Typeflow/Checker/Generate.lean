import Typeflow.Checker.Basic

/-!
The relations of statements. An assignment, and a declaration with an initial value, equates the
variable of its target with the variable of the value. The value of a reference has the variable
of the symbol; the value of a call has a variable of its own, which the call determines.
-/

namespace Typeflow.CheckerM

open Text

mutual

/-- The variable that stands for the value of an expression, and the symbol it refers to. -/
def synth (statement : Statement) : Expr → CheckerM (TypeVar × Symbol)
  | .ref name => do
    let symbol ← find name statement
    return (← varOf symbol, symbol)
  | .call callee args => do
    let symbol ← find callee statement
    let args ← synthArgs statement args
    let result ← unifier Unifier.fresh
    addRelation (.applies (← varOf symbol) args result)
    return (result, symbol)
  | .unsupported form => throw (.error (.unsupported form statement))

def synthArgs (statement : Statement) : List Expr → CheckerM (List TypeVar)
  | [] => return []
  | arg :: rest => do
    let (v, _) ← synth statement arg
    return v :: (← synthArgs statement rest)

end

def relateAssignment (statement : Statement) (target : Identifier) (value : Expr) :
    CheckerM Unit := do
  let target ← find target statement
  let (other, symbol) ← synth statement value
  addRelation (.equates (← varOf target) other target symbol statement)

def relateStatement (statement : Statement) : CheckerM Unit :=
  match statement with
  | .declare ⟨_, none⟩ => return ()
  | .declare ⟨name, some init⟩ => relateAssignment statement name init
  | .assign name value => relateAssignment statement name value
  | .unknown | .missing => throw (.fault .unreachable)

def generate (stmts : List Statement) : CheckerM Unit := do
  write .general
    (utf8 "=== GenerateConstraints ===\n" ++ Statement.renderList stmts ++ utf8 "\n")
  stmts.forM relateStatement

end Typeflow.CheckerM
