import Typeflow.Yaml.Scalar.Block
import Typeflow.Yaml.Scalar.Plain
import Typeflow.Yaml.Scalar.Quoted
import Typeflow.Yaml.Token.State

/-!
Reading the tokens of a text. Each step passes over white space and comments, closes the blocks
that the indentation ends, and reads the token that the next characters start.
-/

namespace Typeflow.Yaml

namespace Scan

def skipSpacing : Nat → Scan Unit
  | 0 => return ()
  | fuel + 1 => do
    match ← peek 0 with
    | some c =>
      if isBlank c then
        skip 1
        skipSpacing fuel
      else if isBreak c then
        skipBreak
        skipSpacing fuel
      else return ()
    | none => return ()

/-- How far ahead another comment is looked for. -/
def commentReach : Nat := 512

/-- The number of blanks and simple line ends between the end of the line and a further comment;
`none` if something else follows first. The separators count as something else. -/
def nextComment? (rest : List Char) : Option Nat :=
  let isSimple (c : Char) : Bool := isBlank c || c = '\n' || c = '\r'
  let between := rest.takeWhile isSimple
  if (rest.head?.map isSimple).getD false && between.length < commentReach &&
      rest[between.length]? = some '#' then
    some between.length
  else none

def comments : Nat → Scan Unit
  | 0 => return ()
  | fuel + 1 => do
    skipWhile (! isBreak ·)
    match nextComment? (← get).rest with
    | some distance =>
      skipSpacing distance
      comments fuel
    | none => return ()

def lineComment : Scan Unit := do
  let cursor ← get
  let blanks := cursor.rest.takeWhile isBlank
  if cursor.breaks = 0 && blanks.length < commentReach &&
      cursor.rest[blanks.length]? = some '#' then
    skipWhile (! isBreak ·)

end Scan

namespace Lex

/-- Passes over white space and comments up to the next token. In a block, tabs may not stand
where a key could begin, and after a line end one can. -/
def skipToToken : Nat → Lex Unit
  | 0 => return ()
  | fuel + 1 => do
    let lexer ← get
    if lexer.cursor.mark.column = 0 && lexer.cursor.mark.index < lexer.markedUntil then
      scan (Scan.skip 1)
    scan (Scan.skipWhile fun c => c = ' ' || (c = '\t' && (lexer.inFlow || !lexer.keyAllowed)))
    if (← scan (Scan.peek 0)) = some '#' then scan (Scan.comments lexer.cursor.rest.length)
    if ((← scan (Scan.peek 0)).map isBreak).getD false then
      scan Scan.skipBreak
      if !lexer.inFlow then allowKey true
      skipToToken fuel

def sign (kind : TokenKind) (length : Nat) : Lex Unit := do
  let line := (← mark).line
  scan (Scan.skip length)
  push kind line

def streamEnd : Lex Unit := do
  modify fun lexer =>
    let mark := lexer.cursor.mark
    let mark := if mark.column = 0 then mark else { mark with column := 0, line := mark.line + 1 }
    { lexer with cursor := { lexer.cursor with mark } }
  closeBlocks 0
  dropKey
  allowKey false
  push .streamEnd (← mark).line

def directive : Lex Unit := do
  closeBlocks 0
  dropKey
  allowKey false
  let line := (← mark).line
  let directive ← scan Scan.directive
  push (.directive directive) line

def documentSign (kind : TokenKind) : Lex Unit := do
  closeBlocks 0
  dropKey
  allowKey false
  sign kind 3

def flowStart (kind : TokenKind) : Lex Unit := do
  noteKey
  require ((← get).flowDepth < 10000)
  modify fun lexer => { lexer with keys := none :: lexer.keys }
  allowKey true
  sign kind 1

def flowEnd (kind : TokenKind) : Lex Unit := do
  dropKey
  modify fun lexer => if lexer.inFlow then { lexer with keys := lexer.keys.tail } else lexer
  allowKey false
  sign kind 1

def flowEntry : Lex Unit := do
  dropKey
  allowKey true
  sign .flowEntry 1

/-- Opens a block for an entry, a key or a value that starts here, if a block may stand here. -/
def enterBlock (kind : TokenKind) : Lex Unit := do
  let lexer ← get
  if !lexer.inFlow then
    require lexer.keyAllowed
    openBlock kind lexer.cursor.mark lexer.tokens.length

def blockEntry : Lex Unit := do
  enterBlock .blockSequenceStart
  dropKey
  allowKey true
  sign .blockEntry 1

def explicitKey : Lex Unit := do
  enterBlock .blockMappingStart
  dropKey
  allowKey !(← get).inFlow
  sign .key 1

/-- Reads a colon. With a pending key before it, the tokens of the key are put in front. -/
def value : Lex Unit := do
  match ← validKey with
  | some key =>
    insert .key key.mark.line key.token
    openBlock .blockMappingStart key.mark key.token
    setKey none
    allowKey false
  | none =>
    enterBlock .blockMappingStart
    allowKey !(← get).inFlow
  sign .value 1

def keyStart (read : Scan TokenKind) : Lex Unit := do
  noteKey
  allowKey false
  let line := (← mark).line
  let kind ← scan read
  push kind line

def plainScalar : Lex Unit := do
  noteKey
  allowKey false
  let lexer ← get
  let (text, broken) ← scan (Plain.read lexer.inFlow lexer.level)
  if broken then allowKey true
  push (.scalar text true) lexer.cursor.mark.line

def blockScalar (literal : Bool) : Lex Unit := do
  dropKey
  allowKey true
  let lexer ← get
  let text ← scan (Block.read literal lexer.level)
  push (.scalar text false) lexer.cursor.mark.line

/-- A plain scalar can start with these two characters. -/
def startsPlain (inFlow : Bool) (c : Char) (next : Option Char) : Bool :=
  !(isSpacing c || isIndicator c) ||
    (c = '-' && !(next.map isBlank).getD false) ||
    (!inFlow && (c = '?' || c = ':') && !isSpacingOrEnd next)

/-- Reads the token that starts with the character `c`, followed by `next`. -/
def content (c : Char) (next : Option Char) : Lex Unit := do
  let inFlow := (← get).inFlow
  if c = '[' then flowStart .flowSequenceStart
  else if c = '\x7b' then flowStart .flowMappingStart
  else if c = ']' then flowEnd .flowSequenceEnd
  else if c = '\x7d' then flowEnd .flowMappingEnd
  else if c = ',' then flowEntry
  else if c = '-' && isSpacingOrEnd next then blockEntry
  else if c = '?' && (inFlow || isSpacingOrEnd next) then explicitKey
  else if c = ':' && (inFlow || isSpacingOrEnd next) then value
  else if c = '*' then keyStart (.alias <$> Scan.anchorName)
  else if c = '&' then keyStart (.anchor <$> Scan.anchorName)
  else if c = '!' then keyStart (.tag <$> Scan.tagName)
  else if c = '|' && !inFlow then blockScalar true
  else if c = '>' && !inFlow then blockScalar false
  else if c = '\'' || c = '"' then keyStart ((.scalar · false) <$> Quoted.read c)
  else if startsPlain inFlow c next then plainScalar
  else failure

/-- Reads one token, and the tokens that become due with it. -/
def step : Lex Unit := do
  skipToToken ((← get).cursor.rest.length + 1)
  closeBlocks ((← mark).column + 1)
  let lexer ← get
  let cursor := lexer.cursor
  require !(lexer.cut && cursor.rest.length < 4)
  if lexer.markedUntil < cursor.mark.index + 4 then
    modify fun lexer => { lexer with markedUntil := 0 }
  match cursor.rest with
  | [] => streamEnd
  | c :: rest =>
    if c = '%' && cursor.mark.column = 0 then directive
    else if cursor.atDocumentSign then
      documentSign (if c = '-' then .documentStart else .documentEnd)
    else
      content c rest.head?
      if ((← get).tokens.head?.map (·.kind)) ≠ some .blockEntry then scan Scan.lineComment
  require !((← get).cut && (← get).cursor.rest.isEmpty)

end Lex

namespace Lexer

/-- The tokens that can be handed on when reading has failed. Two tokens are always held back, and
so is everything from a pending key on. -/
def settled (lexer : Lexer) : List Token :=
  let held := lexer.keys.filterMap fun key =>
    key.bind fun key =>
      if key.required || key.isValid lexer.cursor.mark then some key.token else none
  lexer.tokens.reverse.take (held.foldl min (lexer.tokens.length - 2))

def readAll : Nat → Lexer → TokenList
  | 0, lexer => ⟨lexer.settled, false⟩
  | fuel + 1, lexer =>
    match Lex.step lexer with
    | none => ⟨lexer.settled, false⟩
    | some (_, next) =>
      if next.tokens.head?.map (·.kind) = some .streamEnd then ⟨next.tokens.reverse, true⟩
      else readAll fuel next

end Lexer

def TokenList.ofText (text : Text) : TokenList :=
  let source := Source.ofText text
  (Lexer.ofSource source).readAll (source.chars.length + 2)

end Typeflow.Yaml
