import SchemaSieve.Forest
import SchemaSieve.Object

/-!
# Live trees

A database schema as it was discovered. Discovery gives a flat list of objects that name their
ancestors (`DiscoveredObject`); `LiveTree.ofObjects` folds the list into a tree in which an object
with a name stands once under its parent.
-/

namespace SchemaSieve

/-- A discovered object and the ancestors it names. -/
structure DiscoveredObject where
  kind : ObjectKind
  name : Option String := none
  catalog : Option String := none
  schema : Option String := none
  table : Option String := none
  deriving DecidableEq

namespace DiscoveredObject

/-- The links from the top down to the parent of an object: a catalog counts for every object that
is not itself one, a schema for objects that are no namespaces, a table for columns alone. -/
def links (o : DiscoveredObject) :
    List (ObjectKind × String) :=
  (if o.kind = .catalog then none else o.catalog.map (.catalog, ·)).toList ++
    (if o.kind.isContainer then none else o.schema.map (.schema, ·)).toList ++
    (if o.kind = .column then o.table.map (.table, ·) else none).toList

end DiscoveredObject

/-- What a live node is called under its parent. -/
structure LiveNode where
  kind : ObjectKind
  name : Option String
  deriving DecidableEq

/-- The discovered objects as a forest. -/
structure LiveTree where
  forest : Forest LiveNode

namespace LiveTree

/-- The tree in which nothing was discovered. -/
def empty : LiveTree := ⟨Forest.empty⟩

instance : Inhabited LiveTree := ⟨empty⟩

def size (t : LiveTree) : Nat := t.forest.size

def node? (t : LiveTree) (id : Nat) : Option LiveNode := t.forest.value? id

def parent? (t : LiveTree) (id : Nat) : Option Nat := t.forest.parent? id

def children (t : LiveTree) (id : Nat) : List Nat := t.forest.children id

def roots (t : LiveTree) : List Nat := t.forest.roots

def ids (t : LiveTree) : List Nat := t.forest.ids

def ancestors (t : LiveTree) (id : Nat) : List Nat := t.forest.ancestors id

/-- A live node's number as messages show it. -/
def idText (id : Nat) : String := s!"#{id}"

/-- The names on the way down to a node, joined by points; a missing name shows as `?`. -/
def displayPath (t : LiveTree) (id : Nat) : String :=
  ".".intercalate (((t.forest.lineage id).filterMap t.node?).map fun n => n.name.getD "?")

/-- Puts a node at a place; its number is the size of the tree before. -/
def plant (t : LiveTree) (place : Option Nat) (kind : ObjectKind) (name : Option String) :
    LiveTree :=
  ⟨t.forest.plant place ⟨kind, name⟩⟩

/-- Adds a node at the top or under a node that stands, and gives its number. -/
def add? (t : LiveTree) (place : Option Nat) (kind : ObjectKind) (name : Option String) :
    Option (Nat × LiveTree) :=
  if place.all t.forest.contains then some (t.size, t.plant place kind name) else none

/-- The first node with a kind and a name directly under a place. -/
def find? (t : LiveTree) (place : Option Nat) (kind : ObjectKind) (name : String) : Option Nat :=
  (t.forest.under place).find? fun id => t.node? id == some ⟨kind, some name⟩

/-- The node with a kind and a name directly under a place, planted if there is none. -/
def findOrPlant (t : LiveTree) (place : Option Nat) (kind : ObjectKind) (name : String) :
    Nat × LiveTree :=
  match t.find? place kind name with
  | some id => (id, t)
  | none => (t.size, t.plant place kind (some name))

/-- Follows links down from a place and plants the nodes that are missing. -/
def descend (t : LiveTree) (place : Option Nat) : List (ObjectKind × String) → Option Nat × LiveTree
  | [] => (place, t)
  | (kind, name) :: links =>
    let (id, t) := t.findOrPlant place kind name
    t.descend (some id) links

/-- Adds a discovered object below the ancestors it names, and gives the number of its node. A named
object that already stands there is not added again; an object without a name always is. -/
def put (t : LiveTree) (o : DiscoveredObject) : Nat × LiveTree :=
  let (place, t) := t.descend none o.links
  match o.name with
  | some name => t.findOrPlant place o.kind name
  | none => (t.size, t.plant place o.kind none)

/-- Adds a discovered object. -/
def addObject (t : LiveTree) (o : DiscoveredObject) : LiveTree := (t.put o).2

/-- The tree of a list of discovered objects. -/
def ofObjects (objects : List DiscoveredObject) : LiveTree :=
  objects.foldl addObject empty

end LiveTree

end SchemaSieve
