import TokenConcord.Yaml.Scalar

/-!
# YAML nodes

A YAML document as a tree. A node may carry an anchor, by which aliases elsewhere in the
document stand for it, even from inside the node itself.
-/

namespace TokenConcord.Yaml

/-- A node of a document. Anchors are numbered in the order in which they occur. -/
inductive Node where
  /-- Stands for the node that fills a slot of the document. -/
  | reference (slot : Nat)
  | scalar (anchor : Option Nat) (tag : Option Text) (style : Style) (text : Text)
  | sequence (anchor : Option Nat) (items : List Node)
  | mapping (anchor : Option Nat) (entries : List (Node × Node))

namespace Node

/-- The node that is written as nothing. -/
def empty : Node := .scalar none none .plain []

/-- The anchor of a node. -/
def anchor? : Node → Option Nat
  | reference _ => none
  | scalar anchor .. => anchor
  | sequence anchor _ => anchor
  | mapping anchor _ => anchor

mutual

/-- The nodes of a tree, each before those inside it. -/
def all : Node → List Node
  | reference slot => [reference slot]
  | scalar anchor tag style text => [scalar anchor tag style text]
  | sequence anchor items => sequence anchor items :: allItems items
  | mapping anchor entries => mapping anchor entries :: allEntries entries

def allItems : List Node → List Node
  | [] => []
  | item :: items => item.all ++ allItems items

def allEntries : List (Node × Node) → List Node
  | [] => []
  | (key, value) :: entries => key.all ++ value.all ++ allEntries entries

end

/-- Whether a node has nodes inside or could have. -/
def isCollection : Node → Bool
  | reference _ => false
  | scalar .. => false
  | sequence .. => true
  | mapping .. => true

end Node

/-- A document. -/
structure Document where
  root : Node
  /-- The anchor that fills a slot, the latest assignment first. -/
  slots : List (Nat × Nat)

namespace Document

/-- The node that an alias for a slot stands for. -/
def target? (document : Document) (slot : Nat) : Option Node := do
  let anchor ← document.slots.lookup slot
  document.root.all.find? (·.anchor? = some anchor)

/-- Number of marks needed to list the nodes of the document in order: one for each node
without nodes inside, and two for the ends of any other. -/
def extent (document : Document) : Nat :=
  let nodes := document.root.all
  nodes.length + (nodes.filter (·.isCollection)).length

end Document

end TokenConcord.Yaml
