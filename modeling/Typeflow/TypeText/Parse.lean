import Typeflow.Text.Quoted
import Typeflow.Ty
import Typeflow.TypeText.Token

/-!
Reading types as they are printed: a name, `<unresolvable>`, or a list of types in brackets and an
arrow before the result. A comma may follow the last parameter.
-/

namespace Typeflow.TypeText

open Text

inductive Reason where
  | character (problem : Problem)
  | unexpected (found : Text)
  | expectedSign (sign : Char) (found : Text)
  | expectedMark (found : Text)
deriving DecidableEq

structure Error where
  source : Text
  reason : Reason
deriving DecidableEq

def Error.message (error : Error) : Text :=
  match error.reason with
  | .character problem => utf8 "type " ++ quote error.source ++ utf8 ": " ++ problem.message
  | .unexpected found => utf8 "type: unexpected " ++ quote found
  | .expectedSign sign found =>
    utf8 "type: expected " ++ quote (encode sign.toNat) ++ utf8 ", got " ++ quote found
  | .expectedMark found => utf8 "type: expected unresolvable, got " ++ quote found

/-- A reader of tokens. The token at the head is the current one. -/
abbrev Reader := StateT (List Token) (Except Reason)

namespace Reader

def current : Reader Token := do
  match ← get with
  | token :: _ => return token
  | [] => return ⟨.stop, [], none⟩

def next : Reader Unit := modify List.tail

/-- Fails at the current token. A note about a character goes before any other reason. -/
def fail {α : Type} (reason : Text → Reason) : Reader α := do
  let token ← current
  match token.problem with
  | some problem => throw (.character problem)
  | none => throw (reason token.text)

def expect (sign : Char) : Reader Unit := do
  if (← current).isSign sign then next else fail (.expectedSign sign)

mutual

/-- Reads one type. Every call reads a token before it calls further, so twice the number of
tokens bounds the depth of the calls. -/
def type : Nat → Reader Ty
  | 0 => fail .unexpected
  | depth + 1 => do
    let token ← current
    if token.kind = .name then
      next
      return .name (Identifier.ofText token.text)
    else if token.isSign '<' then
      next
      let token ← current
      if token.kind = .name ∧ token.text = utf8 "unresolvable" then
        next
        expect '>'
        return .unresolvable
      else fail .expectedMark
    else if token.isSign '(' then
      next
      let params ← params depth
      expect ')'
      expect '-'
      expect '>'
      return .fn params (← type depth)
    else fail .unexpected

def params : Nat → Reader (List Ty)
  | 0 => fail .unexpected
  | depth + 1 => do
    let token ← current
    if token.isSign ')' ∨ token.kind = .stop then return []
    else
      let param ← type depth
      if (← current).isSign ',' then
        next
        return param :: (← params depth)
      else return [param]

end

def wholeType (depth : Nat) : Reader Ty := do
  let ty ← type depth
  let token ← current
  if token.kind = .stop ∧ token.problem = none then return ty else fail .unexpected

end Reader

def parse (source : Text) : Except Error Ty :=
  let tokens := tokens source
  match (Reader.wholeType (2 * tokens.length + 1)).run tokens with
  | .ok (ty, _) => .ok ty
  | .error reason => .error ⟨source, reason⟩

end Typeflow.TypeText
