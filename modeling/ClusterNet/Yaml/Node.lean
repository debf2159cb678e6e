import ClusterNet.Yaml.Token

/-!
# YAML nodes

## Main definitions

* `Yaml.Scalar`, `Yaml.Node` — a text with the way it is written, and the nodes built of them;
* `Yaml.Document` — a root with the nodes that aliases refer to;
* `Anchors` — the names of nodes, and `Anchors.node?`, the node that an alias stands for.
-/

namespace ClusterNet

namespace Yaml

/-- A text with the way it is written. -/
structure Scalar where
  /-- The text. -/
  text : String
  /-- How it is written. -/
  style : Style
  /-- The tag before it. -/
  tag : Option String
deriving DecidableEq, Repr, Inhabited

/-- A part of a document. -/
inductive Node where
  /-- A text. -/
  | scalar (value : Scalar)
  /-- A list. -/
  | sequence (tag : Option String) (items : List Node)
  /-- Keys and their values. -/
  | mapping (tag : Option String) (pairs : List (Node × Node))
  /-- A node that stands elsewhere, by the number of its anchor. -/
  | alias (number : Nat)
deriving Repr, Inhabited

/-- A node that is missing. -/
def Node.empty : Node := .scalar ⟨"", .plain, none⟩

/-- Whether nothing is written for the node. -/
def Node.isEmpty : Node → Bool
  | .scalar s => s.text.isEmpty && s.style == .plain
  | _ => false

/-- The anchors of a document. An anchor is known by the number of names that are in use before
it; of two with the same number the later one counts. -/
structure Anchors where
  /-- The names in use, with their numbers, the last one first. -/
  numbers : List (String × Nat) := []
  /-- The places of the anchored nodes among all of them, by their numbers, the last one first. -/
  places : List (Nat × Nat) := []
  /-- The anchored nodes by their places. -/
  nodes : List (Nat × Node) := []
deriving Repr, Inhabited

namespace Anchors

/-- The anchors with another name in use, and the place of its node. -/
def opened (a : Anchors) (name : String) : Nat × Anchors :=
  let number := a.numbers.length
  let place := a.places.length
  (place, { a with
    numbers := (name, number) :: a.numbers.filter (·.1 != name)
    places := (number, place) :: a.places })

/-- The anchors with the node at a place. -/
def closed (a : Anchors) (place : Nat) (n : Node) : Anchors :=
  { a with nodes := (place, n) :: a.nodes }

/-- The number of a name. -/
def number? (a : Anchors) (name : String) : Option Nat := a.numbers.lookup name

/-- The node with a number. -/
def node? (a : Anchors) (number : Nat) : Option Node :=
  (a.places.lookup number).bind fun place => a.nodes.lookup place

end Anchors

/-- A root with the nodes that aliases refer to. -/
structure Document where
  /-- The root. -/
  root : Node
  /-- The anchored nodes. -/
  anchors : Anchors
  /-- The number of scalars and aliases and of starts and ends of lists and mappings. -/
  size : Nat
deriving Repr, Inhabited

/-- The greatest number of aliases that are followed for each part of a document. -/
def aliasFactor : Nat := 100

/-- The greatest number of aliases that are followed in a document. -/
def Document.aliasLimit (d : Document) : Nat := d.size * aliasFactor

end Yaml

end ClusterNet
