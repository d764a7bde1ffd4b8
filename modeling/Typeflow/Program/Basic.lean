import Typeflow.Draft.Decode
import Typeflow.SymbolTable
import Typeflow.TypeText.Parse
import Typeflow.Yaml.Node.Read

/-!
Programs: statements with the catalogue they run against and, for a fixture, the outcome it is
expected to have. A program is read from a document by way of its draft. A draft is accepted when
each of its parts makes sense; the first part that does not is named in the error.
-/

namespace Typeflow

open Text

structure Program where
  builtins : Catalogue
  statements : List Statement
  /-- The expected types by the names as they are written. -/
  expect : Dictionary Text Ty
  error : Text

inductive SignatureError where
  | missingResult
  | badType (error : TypeText.Error)
  /-- The signature mentions the mark of undetermined types. -/
  | notConcrete (signature : Signature)
deriving DecidableEq

def SignatureError.message : SignatureError → Text
  | .missingResult => utf8 "missing return type"
  | .badType error => error.message
  | .notConcrete signature =>
    utf8 "signature " ++ signature.toTy.render ++ utf8 " is not concrete"

inductive StatementError where
  | varAndAssign
  | varWithValue
  | assignWithoutValue
  | neitherVarNorAssign
  | callAndRef
  | refWithArgs
  | neitherCallNorRef
deriving DecidableEq

def StatementError.message : StatementError → Text
  | .varAndAssign => utf8 "statement is both var and assign"
  | .varWithValue => utf8 "var takes init, not value"
  | .assignWithoutValue => utf8 "assign without value"
  | .neitherVarNorAssign => utf8 "statement needs var or assign"
  | .callAndRef => utf8 "expression is both call and ref"
  | .refWithArgs => utf8 "ref takes no args"
  | .neitherCallNorRef => utf8 "expression needs call or ref"

inductive ProgramError where
  | draft (error : DraftError)
  | builtin (name : Text) (error : SignatureError)
  /-- Statements are counted from one. -/
  | statement (number : Nat) (error : StatementError)
  | expect (name : Text) (error : TypeText.Error)
deriving DecidableEq

def DraftError.message : DraftError → Text
  | .notYaml => utf8 "yaml: invalid document"
  | .fault => utf8 "runtime error"
  | .problems found => Problem.messageOfList found

def ProgramError.message : ProgramError → Text
  | .draft error => error.message
  | .builtin name error => utf8 "builtin " ++ name ++ utf8 ": " ++ error.message
  | .statement number error => utf8 "statement " ++ ofNat number ++ utf8 ": " ++ error.message
  | .expect name error => utf8 "expect " ++ name ++ utf8 ": " ++ error.message

/-- The types that texts spell, up to the first that spells none. -/
def parseTypes (sources : List Text) : Except SignatureError (List Ty) :=
  sources.mapM fun source => (TypeText.parse source).mapError .badType

def SignatureDraft.toSignature (draft : SignatureDraft) : Except SignatureError Signature := do
  if draft.returns.isEmpty then throw .missingResult
  let params ← parseTypes draft.params
  let result ← (TypeText.parse draft.returns).mapError .badType
  let signature : Signature := ⟨params, result⟩
  if signature.toTy.mentionsUnresolvable then throw (.notConcrete signature) else return signature

namespace ExprDraft

mutual

def toExpr : ExprDraft → Except StatementError Expr
  | ⟨some _, _, some _⟩ => .error .callAndRef
  | ⟨some callee, args, none⟩ => do
    return .call (.ofText callee) (← toExprs args)
  | ⟨none, args, some name⟩ =>
    if args.isEmpty then .ok (.ref (.ofText name)) else .error .refWithArgs
  | ⟨none, _, none⟩ => .error .neitherCallNorRef

def toExprs : List ExprDraft → Except StatementError (List Expr)
  | [] => .ok []
  | draft :: rest => do
    let expr ← draft.toExpr
    return expr :: (← toExprs rest)

end

end ExprDraft

def StatementDraft.toStatement : StatementDraft → Except StatementError Statement
  | ⟨some _, _, some _, _⟩ => .error .varAndAssign
  | ⟨some _, _, none, some _⟩ => .error .varWithValue
  | ⟨some name, none, none, none⟩ => .ok (.declare ⟨.ofText name, none⟩)
  | ⟨some name, some init, none, none⟩ => do
    return .declare ⟨.ofText name, some (← init.toExpr)⟩
  | ⟨none, _, some _, none⟩ => .error .assignWithoutValue
  | ⟨none, _, some name, some value⟩ => do
    return .assign (.ofText name) (← value.toExpr)
  | ⟨none, _, none, _⟩ => .error .neitherVarNorAssign

namespace Draft

/-- The catalogue of a draft; without one the usual functions are there. -/
def toCatalogue (draft : Draft) : Except ProgramError Catalogue :=
  match draft.builtins with
  | none => .ok .reference
  | some entries => do
    let signatures ← entries.mapM fun (name, signature) => do
      return (Identifier.ofText name, ← signature.toSignature.mapError (.builtin name))
    return .ofList signatures

def toStatements (draft : Draft) : Except ProgramError (List Statement) :=
  draft.program.zipIdx.mapM fun (statement, index) =>
    statement.toStatement.mapError (.statement (index + 1))

def toExpect (draft : Draft) : Except ProgramError (Dictionary Text Ty) := do
  let types ← draft.expect.mapM fun (name, source) => do
    return (name, ← (TypeText.parse source).mapError (.expect name))
  return .ofList types

def toProgram (draft : Draft) : Except ProgramError Program := do
  let builtins ← draft.toCatalogue
  let statements ← draft.toStatements
  let expect ← draft.toExpect
  return { builtins, statements, expect, error := draft.error }

def parse (text : Text) : Except DraftError Draft :=
  match Yaml.Document.ofText (Encoding.decode text) with
  | none => .error .notYaml
  | some none => .ok (.ofValue .unset)
  | some (some document) => ofDocument document

end Draft

def Program.parse (text : Text) : Except ProgramError Program := do
  let draft ← (Draft.parse text).mapError .draft
  draft.toProgram

end Typeflow
