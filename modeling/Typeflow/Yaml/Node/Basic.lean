import Typeflow.Yaml.Tag

/-!
YAML documents as trees. An alias refers to a node by the number of its anchor, because a node may
contain aliases to itself or to nodes around it.
-/

namespace Typeflow.Yaml

inductive Node where
  | scalar (tag : Tag) (line : Nat) (text : Text)
  | sequence (tag : Tag) (line : Nat) (items : List Node)
  | mapping (tag : Tag) (line : Nat) (entries : List (Node × Node))
  /-- An alias has a number of its own; `target` is the number of the anchor. -/
  | alias (line : Nat) (name : Text) (number target : Nat)

namespace Node

/-- The line on which the node starts, counted from one. -/
def line : Node → Nat
  | .scalar _ line _ | .sequence _ line _ | .mapping _ line _ | .alias line _ _ _ => line

/-- A node without any text. -/
def empty (line : Nat) : Node := .scalar Tag.null line []

end Node

structure Document where
  root : Node
  /-- The nodes with an anchor, by its number. -/
  anchored : List (Nat × Node)
  /-- A bound for the number of nodes. -/
  size : Nat

def Document.target? (document : Document) (number : Nat) : Option Node :=
  (document.anchored.find? (·.1 = number)).map (·.2)

end Typeflow.Yaml
