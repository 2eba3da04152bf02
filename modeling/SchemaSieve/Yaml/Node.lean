import SchemaSieve.Yaml.Token

/-!
# Nodes of a document

What a document consists of: scalars, lists, mappings, and aliases for nodes with an anchor.
-/

namespace SchemaSieve.Yaml

/-- Where a node starts, its tag, and the number of its anchor. -/
structure NodeInfo where
  mark : Mark
  tag : Option String := none
  anchor : Option Nat := none
  deriving DecidableEq

/-- A node of a document. -/
inductive Node where
  | scalar (info : NodeInfo) (style : ScalarStyle) (text : String)
  | list (info : NodeInfo) (items : List Node)
  | mapping (info : NodeInfo) (entries : List (Node × Node))
  | aliasOf (info : NodeInfo) (anchor : Nat)

namespace Node

def info : Node → NodeInfo
  | scalar info _ _ => info
  | list info _ => info
  | mapping info _ => info
  | aliasOf info _ => info

def mark (n : Node) : Mark := n.info.mark

/-- The scalar without text that stands where nothing is written. -/
def blank (m : Mark) : Node := scalar ⟨m, none, none⟩ .plain ""

/-- Whether a node is a scalar without text and without quotes. -/
def isBlank : Node → Bool
  | scalar _ .plain text => text.isEmpty
  | _ => false

mutual

/-- The size of a node: a list or a mapping counts with its start and its end. -/
def size : Node → Nat
  | scalar .. | aliasOf .. => 1
  | list _ items => 2 + itemsSize items
  | mapping _ entries => 2 + entriesSize entries

def itemsSize : List Node → Nat
  | [] => 0
  | n :: rest => n.size + itemsSize rest

def entriesSize : List (Node × Node) → Nat
  | [] => 0
  | (k, v) :: rest => k.size + v.size + entriesSize rest

end

mutual

/-- The nodes with an anchor in a node, outermost first, with the numbers of their anchors. -/
def anchored : Node → List (Nat × Node)
  | n@(scalar info _ _) => (info.anchor.map (·, n)).toList
  | n@(list info items) => (info.anchor.map (·, n)).toList ++ itemsAnchored items
  | n@(mapping info entries) => (info.anchor.map (·, n)).toList ++ entriesAnchored entries
  | aliasOf .. => []

def itemsAnchored : List Node → List (Nat × Node)
  | [] => []
  | n :: rest => n.anchored ++ itemsAnchored rest

def entriesAnchored : List (Node × Node) → List (Nat × Node)
  | [] => []
  | (k, v) :: rest => k.anchored ++ v.anchored ++ entriesAnchored rest

end

end Node

/-- A document: its outermost node with its size, and the node that each number of an anchor stands
for. -/
structure Document where
  root : Node
  size : Nat
  anchors : List (Nat × Node)

/-- The document with a node; of several nodes with one number the last counts. -/
def Document.of (root : Node) : Document := ⟨root, root.size, root.anchored.reverse⟩

end SchemaSieve.Yaml
