import SchemaSieve.Filter.Compile

/-!
# Rules that describe an object

A rule node describes a live object if it is about the same kind, its label fits the name of the
object, and the labelled nodes above it fit, in order, some of what the object stands in. What the
object stands in may hold more: a rule at the root describes tables of any schema.
-/

namespace SchemaSieve

/-- A named live object as seen from below: its kind and its name. -/
structure LiveLink where
  kind : ObjectKind
  name : String
  deriving DecidableEq

/-- What a name has to be: one text, or one that a pattern accepts. -/
inductive Label where
  | literal (name : String)
  | pattern (p : NamePattern)
  deriving DecidableEq

def Label.accepts : Label → String → Bool
  | literal n, name => n == name
  | pattern p, name => p.accepts name

/-- What a labelled rule node asks of an object. -/
structure RuleLink where
  kind : ObjectKind
  label : Label
  deriving DecidableEq

namespace RuleLink

def describes (r : RuleLink) (l : LiveLink) : Bool := r.kind == l.kind && r.label.accepts l.name

/-- What a node asks of an object. Nothing is asked by a node without a name, and by a rule whose
pattern is blank or invalid. -/
def ofNode? : RuleNode → Option RuleLink
  | .root => none
  | .catalog name => (Text.nonBlank name).map fun n => ⟨.catalog, .literal n⟩
  | .schema name => (Text.nonBlank name).map fun n => ⟨.schema, .literal n⟩
  | .rule subject _ source => (validPattern? source).map fun p => ⟨subject.kind, .pattern p⟩

end RuleLink

/-- Whether the links of a chain fit, in order, some links of a live chain. -/
def fitsWithin : List RuleLink → List LiveLink → Bool
  | [], _ => true
  | _ :: _, [] => false
  | r :: rs, l :: ls => if r.describes l then fitsWithin rs ls else fitsWithin (r :: rs) ls

/-- A rule node that can describe objects: what it asks of the object itself and, outermost first,
of what the object stands in. -/
structure Shape where
  id : Nat
  link : RuleLink
  chain : List RuleLink

namespace Shape

def describes (s : Shape) (object : LiveLink) (above : List LiveLink) : Bool :=
  s.link.describes object && fitsWithin s.chain above

/-- The shape of a node. There is none if the node, or a labelled node above it, asks nothing. -/
def ofNode? (t : RuleTree) (id : Nat) : Option Shape := do
  let link ← (t.node? id).bind RuleLink.ofNode?
  let labelled := ((t.ancestors id).reverse.filterMap t.node?).filter (·.label?.isSome)
  let chain ← labelled.mapM RuleLink.ofNode?
  return ⟨id, link, chain⟩

end Shape

/-- The shapes of a tree, in the order of numbers. -/
def RuleTree.shapes (t : RuleTree) : List Shape := t.ids.filterMap (Shape.ofNode? t)

/-- The numbers of the shapes that describe an object, which stands below `above`, outermost
first. -/
def describing (shapes : List Shape) (object : LiveLink) (above : List LiveLink) : List Nat :=
  (shapes.filter (·.describes object above)).map (·.id)

end SchemaSieve
