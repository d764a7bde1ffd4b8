import Typeflow.Yaml.Cursor

/-!
Anchors and tags of nodes, and the directives before a document. A tag is a handle, which a
directive may give a meaning, and a suffix; a tag in angle brackets has no handle.
-/

namespace Typeflow.Yaml

structure TagName where
  handle : Text
  suffix : Text
deriving DecidableEq

inductive Directive where
  | version (major minor : Nat)
  /-- Tags with the handle start with `stem`. -/
  | handle (handle stem : Text)
deriving DecidableEq

namespace Scan

def anchorName : Scan Text := do
  skip 1
  let name ← takeWhile isWordChar
  require !name.isEmpty
  let next ← peek 0
  require (isSpacingOrEnd next || (next.map "?:,]\x7d%@`".toList.contains).getD false)
  return textOf name

def octet : Scan Nat := do
  expect '%'
  match (← peek 0).bind hexDigit?, (← peek 1).bind hexDigit? with
  | some high, some low =>
    skip 2
    return high * 16 + low
  | _, _ => failure

def continuingOctets : Nat → Scan Text
  | 0 => return []
  | count + 1 => do
    let value ← octet
    require (0x80 ≤ value && value < 0xc0)
    return value.toUInt8 :: (← continuingOctets count)

/-- Reads a character that is written octet by octet. -/
def octets : Scan Text := do
  let lead ← octet
  let continuing ←
    if lead < 0x80 then pure 0
    else if 0xc0 ≤ lead ∧ lead < 0xe0 then pure 1
    else if 0xe0 ≤ lead ∧ lead < 0xf0 then pure 2
    else if 0xf0 ≤ lead ∧ lead < 0xf8 then pure 3
    else failure
  return lead.toUInt8 :: (← continuingOctets continuing)

def uriFrom : Nat → Text → Scan Text
  | 0, text => return text
  | fuel + 1, text => do
    match ← peek 0 with
    | some c =>
      if c = '%' then uriFrom fuel (text ++ (← octets))
      else if isUriChar c then
        skip 1
        uriFrom fuel (text ++ textOf [c])
      else return text
    | none => return text

def uri : Scan Text := do
  uriFrom ((← get).rest.length + 1) []

def someUri : Scan Text := do
  let text ← uri
  require !text.isEmpty
  return text

/-- Reads an exclamation mark, a word, and a closing exclamation mark if there is one. -/
def handle : Scan Text := do
  expect '!'
  let word ← takeWhile isWordChar
  if (← peek 0) = some '!' then
    skip 1
    return textOf ('!' :: word ++ ['!'])
  else return textOf ('!' :: word)

def isClosed (handle : Text) : Bool := 1 < handle.length && handle.getLast? = some 0x21

/-- Reads a tag. A single exclamation mark is a tag without a handle. -/
def tagName : Scan TagName := do
  let name ←
    if (← peek 1) = some '<' then do
      skip 2
      let suffix ← someUri
      expect '>'
      pure ⟨[], suffix⟩
    else do
      let handle ← handle
      if isClosed handle then pure ⟨handle, ← someUri⟩
      else do
        let suffix := handle.tail ++ (← uri)
        if suffix.isEmpty then pure ⟨[], [0x21]⟩ else pure ⟨[0x21], suffix⟩
  require (isSpacingOrEnd (← peek 0))
  return name

def versionNumber : Scan Nat := do
  let digits ← takeWhile Char.isDigit
  require (digits.length = 1 || digits.length = 2)
  return digits.foldl (fun n c => n * 10 + (c.toNat - 0x30)) 0

def versionDirective : Scan Directive := do
  skipWhile isBlank
  let major ← versionNumber
  expect '.'
  return .version major (← versionNumber)

def handleDirective : Scan Directive := do
  skipWhile isBlank
  let handle ← handle
  require (isClosed handle || handle = [0x21])
  require (((← peek 0).map isBlank).getD false)
  skipWhile isBlank
  let stem ← someUri
  require (isSpacingOrEnd (← peek 0))
  return .handle handle stem

def directive : Scan Directive := do
  skip 1
  let name ← takeWhile isWordChar
  require (isSpacingOrEnd (← peek 0))
  let directive ←
    if name = "YAML".toList then versionDirective
    else if name = "TAG".toList then handleDirective
    else failure
  finishLine
  return directive

end Scan

end Typeflow.Yaml
