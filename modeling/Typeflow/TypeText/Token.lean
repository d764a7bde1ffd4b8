import Typeflow.Text.Digit
import Typeflow.Text.Glyph
import Typeflow.Text.Letter

/-!
Tokens of written types. A name is a letter or an underscore, followed by letters, underscores and
decimal digits; blanks separate; every other character is a token by itself. Characters that may
not stand in a text are tokens too, but they leave a note: the reader sees one character beyond
the token it is at, and each token carries the last note made by then.
-/

namespace Typeflow.TypeText

inductive Problem where
  | nul
  | encoding
deriving DecidableEq

def Problem.message : Problem → Text
  | .nul => Text.utf8 "invalid character NUL"
  | .encoding => Text.utf8 "invalid UTF-8 encoding"

inductive TokenKind where
  | name
  | sign (code : Nat)
  | stop
deriving DecidableEq

structure Token where
  kind : TokenKind
  text : Text
  problem : Option Problem
deriving DecidableEq

namespace Token

def isSign (token : Token) (sign : Char) : Bool := token.kind = .sign sign.toNat

end Token

def isBlank (glyph : Glyph) : Bool :=
  match glyph with
  | .scalar code => code = 0x09 || code = 0x0a || code = 0x0d || code = 0x20
  | .stray _ => false

def startsName (glyph : Glyph) : Bool :=
  match glyph with
  | .scalar code => code = 0x5f || isLetter code
  | .stray _ => false

def continuesName (glyph : Glyph) : Bool :=
  match glyph with
  | .scalar code => code = 0x5f || isLetter code || isDecimalDigit code
  | .stray _ => false

/-- The character that a sign shows; a stray byte shows the replacement character. -/
def signOf : Glyph → TokenKind
  | .scalar code => .sign code
  | .stray _ => .sign 0xfffd

def problemOf : Glyph → Option Problem
  | .scalar 0 => some .nul
  | .scalar _ => none
  | .stray _ => some .encoding

def noted (problem : Option Problem) (glyph : Option Glyph) : Option Problem :=
  (glyph.bind problemOf).or problem

/-- The tokens after passing over `skipped` characters of a name. `problem` is the last note of
the characters before. -/
def tokensFrom : Nat → Option Problem → List Glyph → List Token
  | _, problem, [] => [⟨.stop, [], problem⟩]
  | skipped + 1, problem, glyph :: rest => tokensFrom skipped (noted problem glyph) rest
  | 0, problem, glyph :: rest =>
    let problem := noted problem glyph
    if isBlank glyph then tokensFrom 0 problem rest
    else if startsName glyph then
      let more := rest.takeWhile continuesName
      ⟨.name, Text.ofGlyphs (glyph :: more),
        noted problem (rest.dropWhile continuesName).head?⟩ ::
        tokensFrom more.length problem rest
    else ⟨signOf glyph, glyph.bytes, noted problem rest.head?⟩ :: tokensFrom 0 problem rest

/-- The tokens of a text. One byte order mark at its start is passed over. -/
def tokens (source : Text) : List Token :=
  match source.glyphs with
  | .scalar 0xfeff :: rest => tokensFrom 0 none rest
  | glyphs => tokensFrom 0 none glyphs

end Typeflow.TypeText
