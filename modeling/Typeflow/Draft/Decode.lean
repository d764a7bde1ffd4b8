import Typeflow.Draft.Problem
import Typeflow.Yaml.Node.Basic

/-!
Reading values of a given shape from a document. A node that does not fit is reported and left
out, and reading goes on. An alias is read as the node it names; a document in which nearly
everything comes from aliases is refused. A merge key brings in the entries of other mappings
whose keys are not there yet.
-/

namespace Typeflow

open Yaml

inductive DecodeFailure where
  | invalid
  /-- A key that cannot be compared stands beside a merge key. -/
  | fault
deriving DecidableEq

structure DecodeState where
  /-- The problems found so far, the last one first. -/
  problems : List Problem
  /-- How many nodes have been read, and how many of them through an alias. -/
  visits : Nat
  aliasVisits : Nat
  /-- The aliases that are being followed. -/
  following : List Nat
  /-- While mappings are merged: the keys that are taken. -/
  taken : Option (List Text)

abbrev Decode := EStateM DecodeFailure DecodeState

namespace Decode

/-- Too many of the nodes were read through aliases. The share that is allowed falls from 99 to 10
in the hundred as documents grow. -/
def excessive (visits aliasVisits : Nat) : Bool :=
  let low := 400000
  let range := 3600000
  100 < aliasVisits && 1000 < visits &&
    (if visits ≤ low then 99 * visits < 100 * aliasVisits
      else if low + range ≤ visits then visits < 10 * aliasVisits
      else visits * (99 * range - 89 * (visits - low)) < aliasVisits * 100 * range)

def visit : Decode Unit := do
  let state ← get
  let visits := state.visits + 1
  let aliasVisits := if state.following.isEmpty then state.aliasVisits else state.aliasVisits + 1
  if excessive visits aliasVisits then throw .invalid
  set { state with visits, aliasVisits }

/-- Follows an alias. One that leads to itself is refused. -/
def follow {α : Type} (document : Document) (number target : Nat) (read : Node → Decode α) :
    Decode α := do
  let state ← get
  match document.target? target with
  | some node =>
    if number ∈ state.following then throw .invalid
    set { state with following := number :: state.following }
    let result ← read node
    modify fun after => { after with following := state.following }
    return result
  | none => throw .invalid

def report (problem : Problem) : Decode Unit :=
  modify fun state => { state with problems := problem :: state.problems }

def setTaken (taken : Option (List Text)) : Decode Unit :=
  modify fun state => { state with taken }

def sameKey : Node → Node → Bool
  | .scalar _ _ a, .scalar _ _ b => a = b
  | .sequence .., .sequence .. | .mapping .., .mapping .. => true
  | .alias _ a _ _, .alias _ b _ _ => a = b
  | _, _ => false

def keyText : Node → Text
  | .scalar _ _ text => text
  | .alias _ name _ _ => name
  | .sequence .. | .mapping .. => []

/-- The problems with keys that stand more than once in a mapping. -/
def repeatedKeys : List Node → List Problem
  | [] => []
  | key :: rest =>
    ((rest.filter (sameKey key)).map fun later =>
      .repeatedKey later.line (keyText later) key.line) ++ repeatedKeys rest

def hasRepeatedKeys (entries : List (Node × Node)) : Decode Bool := do
  let problems := repeatedKeys (entries.map (·.1))
  problems.forM report
  return !problems.isEmpty

def isMergeKey : Node → Bool
  | .scalar tag _ text => text = Text.utf8 "<<" && tag = Tag.merge
  | _ => false

def mergedNode? (entries : List (Node × Node)) : Option Node :=
  (entries.filter fun entry => isMergeKey entry.1).getLast?.map (·.2)

/-- The tag of a node or of the node that an alias names. -/
def isNull (document : Document) : Node → Bool
  | .scalar tag _ _ | .sequence tag _ _ | .mapping tag _ _ => tag = Tag.null
  | .alias _ _ _ target =>
    match document.target? target with
    | some (.scalar tag _ _) | some (.sequence tag _ _) | some (.mapping tag _ _) =>
      tag = Tag.null
    | _ => false

def isMapping (document : Document) : Node → Bool
  | .mapping .. => true
  | .alias _ _ _ target =>
    match document.target? target with
    | some (.mapping ..) => true
    | _ => false
  | _ => false

def mergedMappings (document : Document) (node : Node) : Decode (List Node) :=
  match node with
  | .sequence _ _ items => if items.all (isMapping document) then return items else throw .invalid
  | _ => if isMapping document node then return [node] else throw .invalid

inductive FreeKey where
  | text (text : Text)
  | other
  | collection

/-- Reads a node for which no shape is expected; `none` if it has to be left out. -/
def free (document : Document) : Nat → Node → Decode (Option FreeKey)
  | 0, _ => throw .invalid
  | depth + 1, node => do
    visit
    match node with
    | .alias _ _ number target => follow document number target (free document depth)
    | .scalar tag _ text =>
      match Reading.under? tag text, stringUnder? tag text with
      | some .str, some (some content) => return some (.text content)
      | some _, some _ => return some .other
      | _, _ => throw .invalid
    | .sequence _ _ items =>
      items.forM fun item => discard (free document depth item)
      return some .collection
    | .mapping _ _ entries =>
      if ← hasRepeatedKeys entries then return none
      else
        entries.forM fun (key, value) => do
          if isMergeKey key then return ()
          else
            match ← free document depth key with
            | some .collection => throw .invalid
            | some _ => discard (free document depth value)
            | none => return ()
        match mergedNode? entries with
        | some merged =>
          let mappings ← mergedMappings document merged
          mappings.forM fun mapping => discard (free document depth mapping)
        | none => pure ()
        return some .collection

/-- The keys of a mapping that may not be overwritten when others are merged into it. -/
def takenKeys (readKey : Node → Decode (Option FreeKey)) (entries : List (Node × Node)) :
    Decode (List Text) :=
  entries.foldlM (fun taken (key, _) => do
    match ← readKey key with
    | some (.text name) => return name :: taken
    | some .collection => throw .fault
    | some .other | none => return taken) []

/-- Merges the mappings under a merge key into a value that has been read so far. -/
def merge (document : Document) (readKey : Node → Decode (Option FreeKey))
    (read : Node → Value → Decode (Option Value)) (entries : List (Node × Node))
    (current : Value) :
    Decode Value := do
  match mergedNode? entries with
  | none => return current
  | some node =>
    let before := (← get).taken
    if before.isNone then
      let keys ← takenKeys readKey entries
      setTaken (some keys)
    let mappings ← mergedMappings document node
    let merged ← mappings.foldlM (fun current mapping => do
      return (← read mapping current).getD current) current
    setTaken before
    return merged

/-- The text of a key, unless the key is null, does not fit or is taken. The second part of the
result is the taken keys with it. -/
def freshKey (readText : Node → Decode (Option Value)) (taken : Option (List Text)) (key : Node) :
    Decode (Option Text × Option (List Text)) := do
  if isMergeKey key then return (none, taken)
  else
    match ← readText key with
    | some (.text name) =>
      match taken with
      | some names =>
        if names.contains name then return (none, taken) else return (name, name :: names)
      | none => return (name, none)
    | _ => return (none, taken)

/-- Reads the fields of a record. Unknown keys are passed over. -/
def recordFields (read : Shape → Node → Decode (Option Value)) (kind : Record)
    (taken : Option (List Text)) (entries : List (Node × Node)) (fields : List (Text × Value)) :
    Decode (List (Text × Value) × Option (List Text)) := do
  let (fields, _, taken) ← entries.foldlM (fun (fields, done, taken) (key, value) => do
    let (name, taken) ← freshKey (read .text) taken key
    match name.bind fun name => kind.fields.find? (·.1 = name) with
    | some (name, shape) =>
      if done.contains name then
        report (.repeatedField key.line name kind)
        return (fields, done, taken)
      else
        match ← read shape value with
        | some value => return (Value.set name value fields, name :: done, taken)
        | none => return (fields, name :: done, taken)
    | none => return (fields, done, taken)) (fields, ([] : List Text), taken)
  return (fields, taken)

/-- Reads the entries of a map. A null gives an entry without a value, but it replaces none in a
map that entries are merged into. -/
def mapEntries (document : Document) (read : Shape → Node → Decode (Option Value)) (shape : Shape)
    (isNew : Bool) (taken : Option (List Text)) (entries : List (Node × Node))
    (fields : List (Text × Value)) : Decode (List (Text × Value) × Option (List Text)) :=
  entries.foldlM (fun (fields, taken) (key, value) => do
    let (name, taken) ← freshKey (read .text) taken key
    match name with
    | some name =>
      match ← read shape value with
      | some value => return (Value.set name value fields, taken)
      | none =>
        if isNull document value && (isNew || !fields.any (·.1 = name)) then
          return (Value.set name .unset fields, taken)
        else return (fields, taken)
    | none => return (fields, taken)) (fields, taken)

/-- The shape to read a node with: what may be missing is there unless the node has the tag of
null. -/
def expected (tag : Tag) (shape : Shape) : Shape :=
  match shape with
  | .optional inner => if tag = Tag.null then shape else inner
  | _ => shape

/-- Reads a node into a value that has been read so far; `none` if it has to be left out. -/
def into (document : Document) : Nat → Shape → Node → Value → Decode (Option Value)
  | 0, _, _, _ => throw .invalid
  | depth + 1, shape, node, current => do
    visit
    let read (shape : Shape) (node : Node) : Decode (Option Value) :=
      into document depth shape node .unset
    match node with
    | .alias _ _ number target =>
      follow document number target fun node => into document depth shape node current
    | .scalar tag line text =>
      let shape := expected tag shape
      match stringUnder? tag text, shape with
      | none, _ => throw .invalid
      | some none, _ => return if shape.isNullable then some .unset else none
      | some (some content), .text => return some (.text content)
      | some (some _), _ =>
        report (.unsuited line tag text shape)
        return none
    | .sequence tag line items =>
      match expected tag shape with
      | .list item => return some (.list (← items.filterMapM (read item)))
      | shape =>
        report (.unsuited line tag [] shape)
        return none
    | .mapping tag line entries =>
      if ← hasRepeatedKeys entries then return none
      else
        let shape := expected tag shape
        let taken := (← get).taken
        let merged (fields : List (Text × Value)) : Decode (Option Value) :=
          some <$> merge document (free document depth) (into document depth shape) entries
            (.fields fields)
        match shape with
        | .record kind =>
          setTaken none
          let (fields, taken) ← recordFields read kind taken entries current.entries
          setTaken taken
          merged fields
        | .map item =>
          setTaken none
          let (fields, taken) ←
            mapEntries document read item current.isUnset taken entries current.entries
          setTaken taken
          merged fields
        | _ =>
          report (.unsuited line tag [] shape)
          return none

end Decode

inductive DraftError where
  | notYaml
  | fault
  | problems (found : List Problem)
deriving DecidableEq

/-- Reads a document. A path through it enters each alias at most once and meets no more nodes
between two of them than there are. -/
def Draft.ofDocument (document : Document) : Except DraftError Draft :=
  let depth := (document.size + 1) * (document.size + 1)
  let start : DecodeState := ⟨[], 1, 0, [], none⟩
  match Decode.into document depth (.record .document) document.root .unset start with
  | .error .invalid _ => .error .notYaml
  | .error .fault _ => .error .fault
  | .ok value state =>
    if state.problems.isEmpty then .ok (.ofValue (value.getD .unset))
    else .error (.problems state.problems.reverse)

end Typeflow
