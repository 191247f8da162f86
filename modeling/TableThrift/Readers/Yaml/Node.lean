import TableThrift.Text.Basic

/-!
# Nodes of YAML

A document is a tree of nodes. A reference stands for the node that carries an anchor; anchors are
told apart by numbers.

## Main definitions

* `Yaml.Node`: the nodes
* `Yaml.Node.anchors`: the nodes with anchors, in the order of the text
* `Yaml.Node.target?`: the node that an anchor's number stands for
* `Yaml.Node.bare`: a node without its anchor
-/

namespace TableThrift.Yaml

/-- A node of a document. -/
inductive Node where
  | scalar (text : Text) (isPlain : Bool)
  | reference (number : Nat)
  | sequence (items : List Node)
  | mapping (pairs : List (Node × Node))
  | anchored (number : Nat) (node : Node)
deriving Repr

namespace Node

/-- An empty node: a plain scalar without text. -/
def empty : Node := scalar [] true

/-- A node without its anchor. -/
def bare : Node → Node
  | anchored _ n => bare n
  | n => n

mutual

/-- The nodes with anchors among a node and those in it, in the order of the text. -/
def anchors : Node → List (Nat × Node)
  | scalar _ _ => []
  | reference _ => []
  | sequence items => anchorsOfItems items
  | mapping pairs => anchorsOfPairs pairs
  | anchored number n => (number, n) :: anchors n

/-- The nodes with anchors in the items of a sequence. -/
def anchorsOfItems : List Node → List (Nat × Node)
  | [] => []
  | n :: ns => anchors n ++ anchorsOfItems ns

/-- The nodes with anchors in the pairs of a mapping. -/
def anchorsOfPairs : List (Node × Node) → List (Nat × Node)
  | [] => []
  | (k, v) :: ps => anchors k ++ (anchors v ++ anchorsOfPairs ps)

end

/-- The node in a document that a number stands for: the last one with this number. -/
def target? (root : Node) (number : Nat) : Option Node :=
  root.anchors.reverse.lookup number

end Node

end TableThrift.Yaml
