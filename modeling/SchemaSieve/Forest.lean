/-!
# Forests of numbered nodes

A forest grows one node at a time. A node is known by its number in the order of planting, so it
is always planted after the node it stands under, and the number of a node that was removed is not
given again. Links are kept in both directions: a node holds the number of the one it stands under
and the list of those that stand under it. Planting and removing change both. A `Branch` is the same
tree without numbers: a value and the branches below it.
-/

namespace SchemaSieve

/-- A value and the branches below it. -/
inductive Branch (α : Type) where
  | mk (value : α) (children : List (Branch α))

namespace Branch

variable {α : Type}

def value : Branch α → α
  | mk v _ => v

def children : Branch α → List (Branch α)
  | mk _ cs => cs

end Branch

/-- What one number of a forest stands for: the value there and the node it stands under. -/
structure Forest.Slot (α : Type) where
  parent : Option Nat
  value : α

/-- A slot with the nodes that stand directly under it. -/
structure Forest.Cell (α : Type) extends Forest.Slot α where
  children : List Nat

/-- A forest, by number, and the nodes at the top; a cell is empty where a node was removed. -/
structure Forest (α : Type) where
  cells : Array (Option (Forest.Cell α))
  roots : List Nat

namespace Forest

variable {α : Type}

/-- The forest in which nothing was planted. -/
def empty : Forest α := ⟨#[], []⟩

/-- How many numbers were given; it is also the number that the next node gets. -/
def size (f : Forest α) : Nat := f.cells.size

def cell? (f : Forest α) (id : Nat) : Option (Cell α) := (f.cells[id]?).join

def slot? (f : Forest α) (id : Nat) : Option (Slot α) := (f.cell? id).map (·.toSlot)

def value? (f : Forest α) (id : Nat) : Option α := (f.slot? id).map (·.value)

def parent? (f : Forest α) (id : Nat) : Option Nat := (f.slot? id).bind (·.parent)

def contains (f : Forest α) (id : Nat) : Bool := (f.slot? id).isSome

/-- The numbers of the nodes that stand, in the order of planting. -/
def ids (f : Forest α) : List Nat := (List.range f.size).filter f.contains

/-- How many nodes stand. -/
def count (f : Forest α) : Nat := f.ids.length

/-- The nodes directly under a node. -/
def children (f : Forest α) (id : Nat) : List Nat := (f.cell? id).elim [] (·.children)

/-- The nodes directly under a place: under a node, or at the top. -/
def under (f : Forest α) (place : Option Nat) : List Nat := place.elim f.roots f.children

/-- At most `fuel` ancestors of a node, nearest first. -/
def ancestorsWithin (f : Forest α) : Nat → Nat → List Nat
  | 0, _ => []
  | fuel + 1, id => (f.parent? id).elim [] fun p => p :: f.ancestorsWithin fuel p

/-- The ancestors of a node, nearest first; the node itself is not among them. A parent has a
smaller number than its child, so no more than `id` of them can be met. -/
def ancestors (f : Forest α) (id : Nat) : List Nat := f.ancestorsWithin id id

/-- The nodes from a root down to a node, the node itself included. -/
def lineage (f : Forest α) (id : Nat) : List Nat := (f.ancestors id).reverse ++ [id]

/-- Whether a node is `top` or stands somewhere below it. -/
def within (f : Forest α) (top id : Nat) : Bool := id == top || (f.ancestors id).contains top

/-- The nodes at most `fuel - 1` steps below a node, the node first and each followed by its own
subtree. -/
def subtreeWithin (f : Forest α) : Nat → Nat → List Nat
  | 0, _ => []
  | fuel + 1, id => id :: (f.children id).flatMap (f.subtreeWithin fuel)

/-- A node and all below it, each node before its children. -/
def subtree (f : Forest α) (id : Nat) : List Nat := f.subtreeWithin f.size id

/-- All nodes, each before its children and siblings in the order of planting. -/
def preorder (f : Forest α) : List Nat := f.roots.flatMap f.subtree

/-- The branch that starts at a node, down to `fuel - 1` steps below it. -/
def branchWithin (f : Forest α) : Nat → Nat → Option (Branch α)
  | 0, _ => none
  | fuel + 1, id =>
    (f.value? id).map fun v => .mk v ((f.children id).filterMap (f.branchWithin fuel))

/-- The branch that starts at a node that stands. -/
def branch? (f : Forest α) (id : Nat) : Option (Branch α) := f.branchWithin f.size id

/-- Enters a node, last, among those under a place. -/
def link (f : Forest α) (place : Option Nat) (id : Nat) : Forest α :=
  match place with
  | none => { f with roots := f.roots ++ [id] }
  | some p =>
    { f with cells := f.cells.modify p (·.map fun c => { c with children := c.children ++ [id] }) }

/-- Plants a node; its number is the size of the forest before. -/
def plant (f : Forest α) (place : Option Nat) (value : α) : Forest α :=
  { f with cells := f.cells.push (some ⟨⟨place, value⟩, []⟩) }.link place f.size

mutual

/-- Plants a branch at a place, each node before its children. -/
def graft (f : Forest α) (parent : Option Nat) : Branch α → Forest α
  | .mk v cs => (f.plant parent v).graftAll (some f.size) cs

/-- Plants branches at a place, one after the other. -/
def graftAll (f : Forest α) (parent : Option Nat) : List (Branch α) → Forest α
  | [] => f
  | b :: bs => (f.graft parent b).graftAll parent bs

end

/-- Puts another value in the place of a node that stands. -/
def replace (f : Forest α) (id : Nat) (value : α) : Forest α :=
  { f with cells := f.cells.modify id (·.map ({ · with value })) }

/-- Takes a node off the list of those under its place. -/
def unlink (f : Forest α) (id : Nat) : Forest α :=
  match f.parent? id with
  | none => { f with roots := f.roots.filter (· != id) }
  | some p =>
    { f with cells := f.cells.modify p (·.map fun c =>
        { c with children := c.children.filter (· != id) }) }

/-- Empties one cell. -/
def take (f : Forest α) (id : Nat) : Forest α := { f with cells := f.cells.modify id fun _ => none }

@[simp] theorem size_empty : (empty : Forest α).size = 0 := rfl

@[simp] theorem size_link (f : Forest α) (place : Option Nat) (id : Nat) :
    (f.link place id).size = f.size := by
  cases place <;> simp [link, size]

@[simp] theorem size_plant (f : Forest α) (place : Option Nat) (value : α) :
    (f.plant place value).size = f.size + 1 := by
  rw [plant, size_link]
  simp [size]

@[simp] theorem size_replace (f : Forest α) (id : Nat) (value : α) :
    (f.replace id value).size = f.size := by
  simp [replace, size]

@[simp] theorem size_unlink (f : Forest α) (id : Nat) : (f.unlink id).size = f.size := by
  unfold unlink
  split <;> simp [size]

@[simp] theorem size_take (f : Forest α) (id : Nat) : (f.take id).size = f.size := by
  simp [take, size]

theorem cell?_take (f : Forest α) (id i : Nat) :
    (f.take id).cell? i = if i = id then none else f.cell? i := by
  simp only [cell?, take, Array.getElem?_modify]
  by_cases h : id = i
  · subst h
    rcases f.cells[id]? with _ | c <;> simp
  · rw [if_neg h, if_neg (Ne.symm h)]

theorem contains_take (f : Forest α) (id i : Nat) :
    (f.take id).contains i = (i != id && f.contains i) := by
  by_cases h : i = id <;> simp [contains, slot?, cell?_take, h]

theorem count_take_lt {f : Forest α} {id : Nat} (h : f.contains id = true) :
    (f.take id).count < f.count := by
  have hids : (f.take id).ids = f.ids.filter (· != id) := by
    rw [ids, ids, List.filter_filter, size_take]
    exact List.filter_congr fun i _ => contains_take f id i
  have hlt : id < f.size := by
    rcases Nat.lt_or_ge id f.size with hlt | hge
    · exact hlt
    · have hnone : f.cells[id]? = none := Array.getElem?_eq_none hge
      simp [contains, slot?, cell?, hnone] at h
  have hmem : id ∈ f.ids := List.mem_filter.2 ⟨List.mem_range.2 hlt, h⟩
  rw [count, count, hids]
  exact List.length_filter_lt_length_iff_exists.2 ⟨id, hmem, by simp⟩

/-- Empties the cells of the nodes on a stack. When a cell is emptied, the nodes under it are put
on the stack, the last one on top. -/
def clear (f : Forest α) : List Nat → Forest α
  | [] => f
  | id :: stack =>
    if f.contains id then (f.take id).clear ((f.children id).reverse ++ stack)
    else f.clear stack
termination_by stack => (f.count, stack.length)
decreasing_by
  · exact Prod.Lex.left _ _ (count_take_lt ‹_›)
  · exact Prod.Lex.right _ (Nat.lt_succ_self _)

/-- Removes a node with all that stands below it. -/
def remove (f : Forest α) (id : Nat) : Forest α := (f.unlink id).clear [id]

end Forest

end SchemaSieve
