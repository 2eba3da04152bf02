import SchemaSieve.Forest
import SchemaSieve.Rule.Node

/-!
# Rule trees

The user's rules as a tree: a root, the namespaces below it and the rules in them. Nodes can be
attached anywhere; edits keep to the placement table and let no two siblings say the same.
-/

namespace SchemaSieve

/-- A tree of rules. Number `0` is the root's. -/
structure RuleTree where
  forest : Forest RuleNode

namespace RuleTree

/-- Why a rule tree refuses a change. -/
inductive EditError where
  | unknownNode (id : Nat)
  | misplaced (parent child : RuleNode)
  | duplicate (parent child : RuleNode)
  | rootLocked
  | blankLabel (node : RuleNode)
  deriving DecidableEq

/-- A rule node's number as messages show it. -/
def idText (id : Nat) : String := s!"#{id}"

def EditError.message : EditError → String
  | unknownNode id => s!"unknown rule node {idText id}"
  | misplaced parent child => s!"{child.text} cannot be placed under {parent.text}"
  | duplicate parent child => s!"{child.text} already exists under {parent.text}"
  | rootLocked => "the root node cannot be changed"
  | blankLabel node => s!"{node.text} cannot get a blank name or pattern"

/-- The number of the root. -/
def rootId : Nat := 0

/-- The tree that holds only the root. -/
def empty : RuleTree := ⟨Forest.empty.plant none .root⟩

instance : Inhabited RuleTree := ⟨empty⟩

def node? (t : RuleTree) (id : Nat) : Option RuleNode := t.forest.value? id

def parent? (t : RuleTree) (id : Nat) : Option Nat := t.forest.parent? id

def children (t : RuleTree) (id : Nat) : List Nat := t.forest.children id

def ids (t : RuleTree) : List Nat := t.forest.ids

def ancestors (t : RuleTree) (id : Nat) : List Nat := t.forest.ancestors id

/-- The nodes directly below a node, with their numbers. -/
def childNodes (t : RuleTree) (id : Nat) : List (Nat × RuleNode) :=
  (t.children id).filterMap fun c => (t.node? c).map (c, ·)

/-- How many nodes stand, the root included. -/
def count (t : RuleTree) : Nat := t.forest.count

/-- A tree is empty when nothing stands below its root. -/
def isEmpty (t : RuleTree) : Bool := (t.children rootId).isEmpty

/-- The tree as a branch, from the root down. -/
def branch (t : RuleTree) : Branch RuleNode := (t.forest.branch? rootId).getD (.mk .root [])

/-- A way down from the root in words. -/
def pathText (path : List RuleNode) : String := " / ".intercalate (path.map RuleNode.text)

/-- The way from the root to a node in words. -/
def location (t : RuleTree) (id : Nat) : String :=
  pathText ((t.forest.lineage id).filterMap t.node?)

/-- Plants a node; its number is the size of the forest before. -/
def plant (t : RuleTree) (parent : Nat) (node : RuleNode) : RuleTree :=
  ⟨t.forest.plant (some parent) node⟩

/-- The number that the next node gets. -/
def nextId (t : RuleTree) : Nat := t.forest.size

/-- Adds a node under any node that stands, and gives its number. -/
def attach (t : RuleTree) (parent : Nat) (node : RuleNode) : Except EditError (Nat × RuleTree) :=
  if t.forest.contains parent then .ok (t.nextId, t.plant parent node)
  else .error (.unknownNode parent)

/-- The first child that says the same as a node. -/
def findChild? (t : RuleTree) (parent : Nat) (node : RuleNode) : Option Nat :=
  ((t.childNodes parent).find? fun c => c.2.sameAs node).map (·.1)

/-- Adds a node where the placement table allows it and neither the parent nor one of its children
says the same already. -/
def insert (t : RuleTree) (parent : Nat) (node : RuleNode) : Except EditError (Nat × RuleTree) :=
  match t.node? parent with
  | none => .error (.unknownNode parent)
  | some holder =>
    if !holder.canContain node then .error (.misplaced holder node)
    else if holder.sameAs node || (t.findChild? parent node).isSome then
      .error (.duplicate holder node)
    else t.attach parent node

/-- The child that says the same as a node, which is inserted if there is none. -/
def getOrInsert (t : RuleTree) (parent : Nat) (node : RuleNode) :
    Except EditError (Nat × RuleTree) :=
  match t.findChild? parent node with
  | some id => .ok (id, t)
  | none => t.insert parent node

/-- The parent of a node and its other children: what a new label of the node must not clash
with. -/
def surroundings? (t : RuleTree) (id : Nat) : Option (RuleNode × List RuleNode) := do
  let parent ← t.parent? id
  let holder ← t.node? parent
  return (holder, ((t.childNodes parent).filter fun c => c.1 != id).map (·.2))

/-- Gives a node another name or pattern. It keeps its form, its place and its children. -/
def relabel (t : RuleTree) (id : Nat) (label : String) : Except EditError RuleTree :=
  match t.node? id with
  | none => .error (.unknownNode id)
  | some current =>
    if Text.isBlank label then .error (.blankLabel current)
    else match current.withLabel? label with
      | none => .error .rootLocked
      | some renamed =>
        match t.surroundings? id with
        | some (holder, siblings) =>
          if siblings.any (·.sameAs renamed) then .error (.duplicate holder renamed)
          else .ok ⟨t.forest.replace id renamed⟩
        | none => .ok ⟨t.forest.replace id renamed⟩

/-- Takes a node out with all that stands below it. -/
def remove (t : RuleTree) (id : Nat) : Except EditError (RuleNode × RuleTree) :=
  if id = rootId then .error .rootLocked
  else match t.node? id with
    | none => .error (.unknownNode id)
    | some node => .ok (node, ⟨t.forest.remove id⟩)

end RuleTree

end SchemaSieve
