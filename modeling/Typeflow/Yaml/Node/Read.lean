import Typeflow.Yaml.Node.Basic
import Typeflow.Yaml.Token.Read

/-!
Building the tree of the first document from tokens. What stands behind the first document is
looked at only as far as it is needed to see the end.
-/

namespace Typeflow.Yaml

structure NodeState where
  tokens : List Token
  complete : Bool
  /-- The meaning of tag handles. -/
  handles : List (Text × Text)
  anchors : List (Text × Nat)
  /-- The nodes with an anchor that are finished. -/
  anchored : List (Nat × Node)
  aliases : Nat

abbrev NodeReader := StateT NodeState Option

namespace NodeReader

/-- The next token. The end of a complete text can be looked at again and again. -/
def peek : NodeReader Token := do
  let state ← get
  match state.tokens with
  | token :: _ => return token
  | [] => if state.complete then return ⟨.streamEnd, 0⟩ else failure

def next : NodeReader Unit := modify fun state => { state with tokens := state.tokens.tail }

def emptyAt (token : Token) : Node := .empty (token.line + 1)

/-- The handles that need no directive. -/
def defaultHandles : List (Text × Text) :=
  [(Text.utf8 "!", Text.utf8 "!"), (Text.utf8 "!!", Tag.core)]

def fullTag (name : TagName) : NodeReader Text := do
  if name.handle.isEmpty then return name.suffix
  else
    match (← get).handles.find? (·.1 = name.handle) with
    | some (_, stem) => return stem ++ name.suffix
    | none => failure

structure Properties where
  anchor : Option Text
  tag : Option Text
  line : Nat

/-- Reads an anchor and a tag in either order. -/
def properties : NodeReader Properties := do
  let first ← peek
  match first.kind with
  | .anchor anchor =>
    next
    match (← peek).kind with
    | .tag name =>
      next
      return ⟨some anchor, some (← fullTag name), first.line + 1⟩
    | _ => return ⟨some anchor, none, first.line + 1⟩
  | .tag name =>
    next
    match (← peek).kind with
    | .anchor anchor =>
      next
      return ⟨some anchor, some (← fullTag name), first.line + 1⟩
    | _ => return ⟨none, some (← fullTag name), first.line + 1⟩
  | _ => return ⟨none, none, first.line + 1⟩

/-- The tag of a node; a single exclamation mark counts as none. -/
def Properties.tagOr (properties : Properties) (default : Tag) : Tag :=
  match properties.tag with
  | some tag => if tag = [0x21] then default else Tag.short tag
  | none => default

/-- The tag of a scalar that has none. -/
def scalarTag (text : Text) (plain : Bool) : Tag :=
  if !plain then Tag.str
  else if text = Text.utf8 "<<" then Tag.merge
  else (Reading.ofText true text).tag

/-- Reads a node under an anchor. The anchor is known from the start of the node on. -/
def anchoring (anchor : Option Text) (read : NodeReader Node) : NodeReader Node := do
  match anchor with
  | none => read
  | some name =>
    let number := (← get).anchors.length
    modify fun state => { state with anchors := (name, number) :: state.anchors }
    let node ← read
    modify fun state => { state with anchored := (number, node) :: state.anchored }
    return node

def aliasTo (name : Text) (line : Nat) : NodeReader Node := do
  let state ← get
  match state.anchors.find? (·.1 = name) with
  | some (_, target) =>
    set { state with aliases := state.aliases + 1 }
    return .alias line name state.aliases target
  | none => failure

/-- Reads a node unless the next token is one of `stops`; then there is an empty node. -/
def nodeUnless (stops : List TokenKind) (missing : Token → Node) (read : NodeReader Node) :
    NodeReader Node := do
  let token ← peek
  if token.kind ∈ stops then return missing token else read

mutual

/-- Reads a node. Block collections may stand in blocks only; after a key a sequence may do
without further indentation. Every call is followed by at most one further call before a token is
read, so twice the number of tokens bounds the depth. -/
def node (block indentless : Bool) : Nat → NodeReader Node
  | 0 => failure
  | depth + 1 => do
    let first ← peek
    match first.kind with
    | .alias name =>
      next
      aliasTo name (first.line + 1)
    | _ =>
      let properties ← properties
      let token ← peek
      anchoring properties.anchor do
        match token.kind, block, indentless with
        | .blockEntry, _, true =>
          let items ← indentlessItems depth
          return .sequence (properties.tagOr Tag.seq) properties.line items
        | .scalar text plain, _, _ =>
          next
          return .scalar (properties.tagOr (scalarTag text plain)) properties.line text
        | .flowSequenceStart, _, _ =>
          next
          let items ← flowItems true depth
          return .sequence (properties.tagOr Tag.seq) properties.line items
        | .flowMappingStart, _, _ =>
          next
          let entries ← flowEntries true depth
          return .mapping (properties.tagOr Tag.map) properties.line entries
        | .blockSequenceStart, true, _ =>
          next
          let items ← blockItems depth
          return .sequence (properties.tagOr Tag.seq) properties.line items
        | .blockMappingStart, true, _ =>
          next
          let entries ← blockEntries depth
          return .mapping (properties.tagOr Tag.map) properties.line entries
        | _, _, _ =>
          if properties.anchor.isSome || properties.tag.isSome then
            return .scalar (properties.tagOr Tag.null) properties.line []
          else failure

def blockItems : Nat → NodeReader (List Node)
  | 0 => failure
  | depth + 1 => do
    let token ← peek
    match token.kind with
    | .blockEntry =>
      next
      let item ← nodeUnless [.blockEntry, .blockEnd] (fun _ => emptyAt token)
        (node true false depth)
      return item :: (← blockItems depth)
    | .blockEnd =>
      next
      return []
    | _ => failure

/-- Reads the items of a sequence that ends with the block around it. -/
def indentlessItems : Nat → NodeReader (List Node)
  | 0 => failure
  | depth + 1 => do
    let token ← peek
    match token.kind with
    | .blockEntry =>
      next
      let item ← nodeUnless [.blockEntry, .key, .value, .blockEnd] (fun _ => emptyAt token)
        (node true false depth)
      return item :: (← indentlessItems depth)
    | _ => return []

def blockEntries : Nat → NodeReader (List (Node × Node))
  | 0 => failure
  | depth + 1 => do
    let token ← peek
    match token.kind with
    | .key =>
      next
      let key ← nodeUnless [.key, .value, .blockEnd] (fun _ => emptyAt token)
        (node true true depth)
      let token ← peek
      let value ← do
        if token.kind = .value then
          next
          nodeUnless [.key, .value, .blockEnd] (fun _ => emptyAt token) (node true true depth)
        else pure (emptyAt token)
      return (key, value) :: (← blockEntries depth)
    | .blockEnd =>
      next
      return []
    | _ => failure

/-- Reads the items of a flow sequence and its end. A key makes an item that is a mapping of one
entry. -/
def flowItems (first : Bool) : Nat → NodeReader (List Node)
  | 0 => failure
  | depth + 1 => do
    if (← peek).kind = .flowSequenceEnd then
      next
      return []
    else
      if !first then
        if (← peek).kind = .flowEntry then next else failure
      let token ← peek
      match token.kind with
      | .flowSequenceEnd =>
        next
        return []
      | .key =>
        next
        let entry ← flowPair depth
        return .mapping Tag.map (token.line + 1) [entry] :: (← flowItems false depth)
      | _ =>
        let item ← node false false depth
        return item :: (← flowItems false depth)

/-- Reads the entry of a mapping that stands as an item. Where the key is missing, the sign after
it is passed over. -/
def flowPair : Nat → NodeReader (Node × Node)
  | 0 => failure
  | depth + 1 => do
    let token ← peek
    let key ← do
      if token.kind ∈ [.value, .flowEntry, .flowSequenceEnd] then
        next
        pure (emptyAt token)
      else node false false depth
    let token ← peek
    let value ← do
      if token.kind = .value then
        next
        nodeUnless [.flowEntry, .flowSequenceEnd] (fun _ => emptyAt token)
          (node false false depth)
      else pure (emptyAt token)
    return (key, value)

def flowEntries (first : Bool) : Nat → NodeReader (List (Node × Node))
  | 0 => failure
  | depth + 1 => do
    if (← peek).kind = .flowMappingEnd then
      next
      return []
    else
      if !first then
        if (← peek).kind = .flowEntry then next else failure
      match (← peek).kind with
      | .flowMappingEnd =>
        next
        return []
      | .key =>
        next
        let key ← nodeUnless [.value, .flowEntry, .flowMappingEnd] emptyAt
          (node false false depth)
        let token ← peek
        let value ← do
          if token.kind = .value then
            next
            nodeUnless [.flowEntry, .flowMappingEnd] emptyAt (node false false depth)
          else pure (emptyAt token)
        return (key, value) :: (← flowEntries false depth)
      | _ =>
        let key ← node false false depth
        let value := emptyAt (← peek)
        return (key, value) :: (← flowEntries false depth)

end

/-- Reads the directives before a document. Only the version 1.1 is known. -/
def directives : Nat → Bool → NodeReader Unit
  | 0, _ => failure
  | fuel + 1, versioned => do
    match (← peek).kind with
    | .directive (.version major minor) =>
      if versioned || major ≠ 1 || minor ≠ 1 then failure
      next
      directives fuel true
    | .directive (.handle handle stem) =>
      let state ← get
      if state.handles.any (·.1 = handle) then failure
      set { state with handles := state.handles ++ [(handle, stem)] }
      next
      directives fuel versioned
    | _ => return ()

def isDirective : TokenKind → Bool
  | .directive _ => true
  | _ => false

/-- Reads the root of the first document; `none` if there is no document. -/
def root (depth : Nat) : NodeReader (Option Node) := do
  next
  let first ← peek
  if first.kind = .streamEnd then return none
  else
    let explicit := isDirective first.kind || first.kind = .documentStart
    directives depth false
    modify fun state => { state with handles := state.handles ++ defaultHandles }
    if explicit then
      if (← peek).kind = .documentStart then next else failure
    let token ← peek
    let root ← do
      if explicit && (isDirective token.kind ||
          token.kind ∈ [.documentStart, .documentEnd, .streamEnd]) then
        pure (emptyAt token)
      else node true false depth
    discard peek
    return some root

end NodeReader

/-- The first document of a text. The outer `none` says that the text is not YAML, the inner one
that it holds no document. -/
def Document.ofText (text : Text) : Option (Option Document) :=
  let ⟨tokens, complete⟩ := TokenList.ofText text
  match (NodeReader.root (2 * tokens.length + 4)).run ⟨tokens, complete, [], [], [], 0⟩ with
  | some (some root, state) => some (some ⟨root, state.anchored, 2 * tokens.length + 4⟩)
  | some (none, _) => some none
  | none => none

end Typeflow.Yaml
