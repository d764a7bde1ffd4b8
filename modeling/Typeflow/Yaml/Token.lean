import Typeflow.Yaml.Property

/-!
The tokens of YAML text. Blocks are told by indentation; the tokens make their beginnings and ends
explicit, and they mark the keys that the text marks only by a colon behind them.
-/

namespace Typeflow.Yaml

inductive TokenKind where
  | streamStart
  | streamEnd
  | directive (directive : Directive)
  | documentStart
  | documentEnd
  | blockSequenceStart
  | blockMappingStart
  | blockEnd
  | flowSequenceStart
  | flowSequenceEnd
  | flowMappingStart
  | flowMappingEnd
  | blockEntry
  | flowEntry
  | key
  | value
  | alias (name : Text)
  | anchor (name : Text)
  | tag (name : TagName)
  /-- A scalar; `plain` if it stands without quotes and outside a block scalar. -/
  | scalar (text : Text) (plain : Bool)
deriving DecidableEq

structure Token where
  kind : TokenKind
  /-- The line on which the token starts, counted from zero. -/
  line : Nat

/-- The tokens that can be read. `complete` if they reach the end of the text; otherwise something
that is not YAML comes after them. -/
structure TokenList where
  tokens : List Token
  complete : Bool

end Typeflow.Yaml
