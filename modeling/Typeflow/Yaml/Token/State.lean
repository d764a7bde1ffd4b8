import Typeflow.Yaml.Source
import Typeflow.Yaml.Token

/-!
The state of reading tokens. A scalar or a collection at a place where a key may stand is noted as
a pending key, one for each level of flow collections; when a colon follows on the same line and
not too far away, the tokens that mark the key are put in front of it.
-/

namespace Typeflow.Yaml

structure PendingKey where
  /-- Nothing else than a key can stand at its place. -/
  required : Bool
  /-- The number of the token with which the key starts. -/
  token : Nat
  mark : Mark

/-- A key ends on its line, at most 1024 characters from its start. -/
def PendingKey.isValid (key : PendingKey) (mark : Mark) : Bool :=
  key.mark.line = mark.line && mark.index ≤ key.mark.index + 1024

structure Lexer where
  cursor : Cursor
  tokens : List Token
  /-- One more than the column of the innermost block; zero outside of blocks. -/
  level : Nat
  outer : List Nat
  /-- The pending keys, one for the block level and one for each open flow collection, the
  innermost first. -/
  keys : List (Option PendingKey)
  keyAllowed : Bool
  /-- Up to this index the first character of a line is passed over, because the text starts with
  a second byte order mark. -/
  markedUntil : Nat
  /-- What cannot be read follows the text of the cursor. -/
  cut : Bool

abbrev Lex := StateT Lexer Option

namespace Lexer

def flowDepth (lexer : Lexer) : Nat := lexer.keys.length - 1

def inFlow (lexer : Lexer) : Bool := 1 < lexer.keys.length

def ofSource (source : Source) : Lexer :=
  { cursor := ⟨source.chars, ⟨0, 0, 0⟩, 0⟩
    tokens := [⟨.streamStart, 0⟩]
    level := 0
    outer := []
    keys := [none]
    keyAllowed := true
    markedUntil := if source.chars.head? = some '\ufeff' then source.firstStretch else 0
    cut := !source.intact }

end Lexer

namespace Lex

def scan {α : Type} (action : Scan α) : Lex α := fun lexer =>
  match action lexer.cursor with
  | some (value, cursor) => some (value, { lexer with cursor })
  | none => none

def require (condition : Bool) : Lex Unit := if condition then return () else failure

def mark : Lex Mark := return (← get).cursor.mark

def allowKey (allowed : Bool) : Lex Unit :=
  modify fun lexer => { lexer with keyAllowed := allowed }

def push (kind : TokenKind) (line : Nat) : Lex Unit :=
  modify fun lexer => { lexer with tokens := ⟨kind, line⟩ :: lexer.tokens }

def insert (kind : TokenKind) (line number : Nat) : Lex Unit :=
  modify fun lexer =>
    { lexer with
      tokens := lexer.tokens.insertIdx (lexer.tokens.length - number) ⟨kind, line⟩ }

/-- Opens a block at a column unless one at that column or further right is open already. The
token that tells it stands before the token with the given number. -/
def openBlock (kind : TokenKind) (start : Mark) (number : Nat) : Lex Unit := do
  let lexer ← get
  if !lexer.inFlow && lexer.level ≤ start.column then
    require (lexer.outer.length < 10000)
    set { lexer with level := start.column + 1, outer := lexer.level :: lexer.outer }
    insert kind start.line number

/-- Closes blocks, innermost first, while they are indented further than the level. -/
def closeBlocksTo (level : Nat) : List Nat → Lex Unit
  | [] => return ()
  | enclosing :: rest => do
    let lexer ← get
    if level < lexer.level then
      push .blockEnd lexer.cursor.mark.line
      modify fun lexer => { lexer with level := enclosing, outer := rest }
      closeBlocksTo level rest

def closeBlocks (level : Nat) : Lex Unit := do
  let lexer ← get
  if !lexer.inFlow then closeBlocksTo level lexer.outer

def setKey (key : Option PendingKey) : Lex Unit :=
  modify fun lexer => { lexer with keys := key :: lexer.keys.tail }

def currentKey : Lex (Option PendingKey) := return (← get).keys.head?.join

def dropKey : Lex Unit := do
  match ← currentKey with
  | some key =>
    require !key.required
    setKey none
  | none => return ()

def noteKey : Lex Unit := do
  let lexer ← get
  if lexer.keyAllowed then
    dropKey
    let mark := lexer.cursor.mark
    let required := !lexer.inFlow && lexer.level = mark.column + 1
    setKey (some ⟨required, lexer.tokens.length, mark⟩)

/-- The pending key if a colon at the current place can follow it. -/
def validKey : Lex (Option PendingKey) := do
  match ← currentKey with
  | some key =>
    if key.isValid (← mark) then return some key
    else
      dropKey
      return none
  | none => return none

end Lex

end Typeflow.Yaml
