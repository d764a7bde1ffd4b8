import Typeflow.Text.Basic

/-!
Files as the commands see them: paths, what can go wrong with reading one, and trees of files that
are given as a whole.
-/

namespace Typeflow

open Text

namespace Path

def split : Text → List Text
  | [] => [[]]
  | byte :: rest =>
    match split rest with
    | part :: parts => if byte = 0x2f then [] :: part :: parts else (byte :: part) :: parts
    | [] => [[byte]]

def isHere (part : Text) : Bool := part.isEmpty || part = utf8 "."

def isUp (part : Text) : Bool := part = utf8 ".."

/-- Drops parts that lead nowhere and takes back a part before each that leads up. -/
def simplify (rooted : Bool) (parts : List Text) : List Text :=
  (parts.foldl (fun kept part =>
    if isHere part then kept
    else if isUp part then
      match kept with
      | last :: before => if isUp last then part :: kept else before
      | [] => if rooted then [] else [part]
    else part :: kept) []).reverse

/-- The shortest path that leads to the same place. -/
def clean (path : Text) : Text :=
  let rooted := path.head? = some 0x2f
  let parts := Text.join (utf8 "/") (simplify rooted (split path))
  if rooted then utf8 "/" ++ parts else if parts.isEmpty then utf8 "." else parts

def join (directory name : Text) : Text := clean (directory ++ utf8 "/" ++ name)

/-- The end of a name from its last dot on; empty if it has none. -/
def extension (name : Text) : Text :=
  if name.contains 0x2e then 0x2e :: (name.reverse.takeWhile (· ≠ 0x2e)).reverse else []

end Path

inductive ReadError where
  | isDirectory
  | cannotOpen (reason : Text)
deriving DecidableEq

namespace ReadError

def missing : ReadError := .cannotOpen (utf8 "no such file or directory")

def notDirectory : ReadError := .cannotOpen (utf8 "not a directory")

def message (path : Text) : ReadError → Text
  | .isDirectory => utf8 "read " ++ path ++ utf8 ": is a directory"
  | .cannotOpen reason => utf8 "open " ++ path ++ utf8 ": " ++ reason

end ReadError

structure DirectoryEntry where
  name : Text
  isDirectory : Bool
deriving DecidableEq

/-- Files by their paths; `none` is a directory. The directories on the way to a file are there as
well. -/
structure FileTree where
  files : List (Text × Option Text)

namespace FileTree

inductive Place where
  | file (content : Text)
  | directory

def place? (tree : FileTree) (parts : List Text) : Option Place :=
  match tree.files.find? fun file => Path.simplify false (Path.split file.1) = parts with
  | some (_, some content) => some (.file content)
  | some (_, none) => some .directory
  | none =>
    if parts.isEmpty ||
        tree.files.any fun file => parts.isPrefixOf (Path.simplify false (Path.split file.1)) then
      some .directory
    else none

def walk (tree : FileTree) (place : List Text) : List Text → Except ReadError (List Text)
  | [] => .ok place
  | part :: rest =>
    match tree.place? place with
    | some .directory =>
      if Path.isHere part then tree.walk place rest
      else if Path.isUp part then
        if place.isEmpty then .error .missing else tree.walk place.dropLast rest
      else
        match tree.place? (place ++ [part]) with
        | some _ => tree.walk (place ++ [part]) rest
        | none => .error .missing
    | some (.file _) => .error .notDirectory
    | none => .error .missing

/-- Nothing is known about paths that leave the tree. -/
def find (tree : FileTree) (path : Text) : Except ReadError (List Text) :=
  if path.isEmpty || path.head? = some 0x2f then .error .missing
  else tree.walk [] (Path.split path)

def read (tree : FileTree) (path : Text) : Except ReadError Text :=
  match tree.find path with
  | .error error => .error error
  | .ok parts =>
    match tree.place? parts with
    | some (.file content) => .ok content
    | some .directory => .error .isDirectory
    | none => .error .missing

/-- Puts an entry in its place by the bytes of its name; one that is there already stays. -/
def insertEntry (entry : DirectoryEntry) : List DirectoryEntry → List DirectoryEntry
  | [] => [entry]
  | other :: rest =>
    if entry.name < other.name then entry :: other :: rest
    else if other.name < entry.name then other :: insertEntry entry rest
    else other :: rest

/-- The entry that a file makes in a directory. -/
def entryIn? (parts : List Text) (file : Text × Option Text) : Option DirectoryEntry :=
  let path := Path.simplify false (Path.split file.1)
  if parts.isPrefixOf path then
    match path.drop parts.length with
    | [] => none
    | [name] => some ⟨name, file.2.isNone⟩
    | name :: _ => some ⟨name, true⟩
  else none

def list (tree : FileTree) (path : Text) : Option (List DirectoryEntry) :=
  match tree.find path with
  | .error _ => none
  | .ok parts =>
    match tree.place? parts with
    | some .directory =>
      some ((tree.files.filterMap (entryIn? parts)).foldl (fun entries entry =>
        insertEntry entry entries) [])
    | _ => none

end FileTree

end Typeflow
