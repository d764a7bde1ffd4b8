import Typeflow.Text.Base64
import Typeflow.Yaml.Number
import Typeflow.Yaml.Timestamp

/-!
Tags, and what plain scalars mean without one. Tags of the core set are written short, with two
exclamation marks.
-/

namespace Typeflow.Yaml

open Text

abbrev Tag := Text

namespace Tag

def null : Tag := utf8 "!!null"
def bool : Tag := utf8 "!!bool"
def int : Tag := utf8 "!!int"
def float : Tag := utf8 "!!float"
def timestamp : Tag := utf8 "!!timestamp"
def str : Tag := utf8 "!!str"
def binary : Tag := utf8 "!!binary"
def merge : Tag := utf8 "!!merge"
def seq : Tag := utf8 "!!seq"
def map : Tag := utf8 "!!map"

/-- What the tags of the core set start with when they are written in full. -/
def core : Text := utf8 "tag:yaml.org,2002:"

def short (tag : Text) : Tag :=
  if core.isPrefixOf tag then utf8 "!!" ++ tag.drop core.length else tag

end Tag

inductive Reading where
  | null
  | bool
  /-- A whole number; `signed` if it fits into a signed word. -/
  | int (signed : Bool)
  | float
  | timestamp
  | str
deriving DecidableEq

namespace Reading

def tag : Reading → Tag
  | .null => Tag.null
  | .bool => Tag.bool
  | .int _ => Tag.int
  | .float => Tag.float
  | .timestamp => Tag.timestamp
  | .str => Tag.str

/-- Words with a meaning of their own. -/
def words : List (String × Reading) :=
  [("", .null), ("~", .null), ("null", .null), ("Null", .null), ("NULL", .null),
    ("true", .bool), ("True", .bool), ("TRUE", .bool),
    ("false", .bool), ("False", .bool), ("FALSE", .bool),
    (".nan", .float), (".NaN", .float), (".NAN", .float),
    (".inf", .float), (".Inf", .float), (".INF", .float),
    ("+.inf", .float), ("+.Inf", .float), ("+.INF", .float),
    ("-.inf", .float), ("-.Inf", .float), ("-.INF", .float)]

def ofNumeral (timestamps : Bool) (chars : List Char) : Reading :=
  let plain := Number.withoutUnderscores chars
  if timestamps && Timestamp.isTimestamp chars then .timestamp
  else
    match Number.integer? plain with
    | some signed => .int signed
    | none =>
      if Number.isFloat plain then .float
      else if Number.signInside plain then .int true
      else .str

/-- What a plain text means. Points in time are considered only on demand. -/
def ofText (timestamps : Bool) (text : Text) : Reading :=
  match words.find? (fun word => utf8 word.1 = text) with
  | some (_, reading) => reading
  | none =>
    let chars := text.map fun byte => Char.ofNat byte.toNat
    match chars.head? with
    | some c =>
      if c.isDigit || c = '+' || c = '-' then ofNumeral timestamps chars
      else if c = '.' then
        if Number.underscoresSeparate false chars &&
            Number.isFloat (Number.withoutUnderscores chars)
        then .float
        else .str
      else .str
    | none => .null

def decisive : List Tag := [Tag.null, Tag.bool, Tag.int, Tag.float, Tag.timestamp]

/-- Reads a text under a tag; `none` if it does not fit. Whole numbers of a signed word are
fractions too. Tags outside the decisive ones take any text. -/
def under? (tag : Tag) (text : Text) : Option Reading :=
  if tag ∈ decisive then
    let reading := ofText (tag = Tag.timestamp) text
    if reading.tag = tag then some reading
    else if tag = Tag.float ∧ reading = .int true then some .float
    else none
  else some .str

end Reading

/-- The text that a scalar with the given tag stands for as a string; `none` if it does not fit
the tag. A null stands for no text. -/
def stringUnder? (tag : Tag) (text : Text) : Option (Option Text) :=
  match Reading.under? tag text with
  | none => none
  | some .null => some none
  | some _ =>
    if tag = Tag.binary then (Base64.decode text).map some
    else some (some text)

end Typeflow.Yaml
