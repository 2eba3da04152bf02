import SchemaSieve.Filter.Decide
import SchemaSieve.Live.Tree
import SchemaSieve.Reconcile.Shape

/-!
# Annotated live trees

Reconciling sets a sieve against a live tree: each node is decided by its own name and the names
above it, whatever was decided about its parent. A node that cannot be decided is undetermined, and
a finding says why. A walk visits each node before its children and brings the names down with it;
what it says of a node goes into the slot of the node, and findings are kept in its order.
-/

namespace SchemaSieve

/-- What reconciling says about a node. -/
inductive Membership where
  | included
  | excluded
  | undetermined
  deriving DecidableEq

namespace Membership

def name : Membership → String
  | included => "included"
  | excluded => "excluded"
  | undetermined => "undetermined"

def ofDecision : Decision → Membership
  | .included => included
  | .excluded => excluded

end Membership

/-- The parents an object may have; `none` is the top level. -/
def ObjectKind.canAppearUnder : ObjectKind → Option ObjectKind → Bool
  | .catalog, parent => parent.isNone
  | .schema, parent => parent.isNone || parent == some .catalog
  | .table, parent | .procedure, parent =>
    parent.isNone || parent == some .catalog || parent == some .schema
  | .column, parent => parent == some .table

/-- What is wrong with an object under a parent where it may not appear. -/
def ObjectFault.ofPlace (kind : ObjectKind) : Option ObjectKind → ObjectFault
  | some parent => .misplaced kind parent
  | none => .misplacedTop kind

/-- The path of an object below some links; of two links of one kind the inner one counts. -/
def ObjectPath.ofLinks (name : String) (above : List LiveLink) : ObjectPath :=
  above.foldl
    (fun path link =>
      match link.kind with
      | .catalog => { path with catalog := some link.name }
      | .schema => { path with schema := some link.name }
      | .table => { path with table := some link.name }
      | .column | .procedure => path)
    { name := some name }

namespace LiveTree

/-- The link that a node is to what stands below it. -/
def link? (t : LiveTree) (id : Nat) : Option LiveLink := do
  let node ← t.node? id
  let name ← Text.nonBlank node.name
  return ⟨node.kind, name⟩

/-- The links above a node, outermost first. -/
def linksAbove (t : LiveTree) (id : Nat) : List LiveLink :=
  (t.ancestors id).reverse.filterMap t.link?

/-- The kind of the node that a node stands under. -/
def parentKind? (t : LiveTree) (id : Nat) : Option ObjectKind :=
  ((t.parent? id).bind t.node?).map (·.kind)

/-- Decides about a node below some links: those above it in the tree, if no others are given. -/
def decide (t : LiveTree) (sieve : Sieve) (id : Nat) (node : LiveNode)
    (above : List LiveLink := t.linksAbove id) : Except Finding Decision :=
  match Text.nonBlank node.name with
  | none => .error (.malformedObject (t.displayPath id) (.nameless node.kind))
  | some name =>
    let parent := t.parentKind? id
    if node.kind.canAppearUnder parent then sieve.decide (.ofLinks name above) node.kind
    else .error (.malformedObject (t.displayPath id) (.ofPlace node.kind parent))

end LiveTree

/-- A live node with what was decided about it and the rules that describe it. -/
structure AnnotatedNode where
  id : Nat
  kind : ObjectKind
  name : Option String
  path : String
  parent : Option Nat
  membership : Membership
  matched : List Nat
  deriving DecidableEq

/-- An annotated live tree: its nodes in the order of numbers, and the findings. -/
structure AnnotatedTree where
  nodes : List AnnotatedNode
  findings : List Finding
  deriving DecidableEq

namespace AnnotatedTree

def withMembership (t : AnnotatedTree) (m : Membership) : List AnnotatedNode :=
  t.nodes.filter fun n => n.membership == m

def count (t : AnnotatedTree) (m : Membership) : Nat := (t.withMembership m).length

/-- The first node with a path. -/
def find? (t : AnnotatedTree) (path : String) : Option AnnotatedNode :=
  t.nodes.find? fun n => n.path == path

def node? (t : AnnotatedTree) (id : Nat) : Option AnnotatedNode :=
  t.nodes[id]?.filter fun n => n.id == id

def membership? (t : AnnotatedTree) (id : Nat) : Option Membership :=
  (t.node? id).map (·.membership)

end AnnotatedTree

namespace LiveTree

/-- One node annotated. A node that is undetermined is described by no rule. -/
def annotate (t : LiveTree) (sieve : Sieve) (shapes : List Shape) (id : Nat) (node : LiveNode)
    (above : List LiveLink := t.linksAbove id) : AnnotatedNode :=
  let (membership, matched) :=
    match t.decide sieve id node above, t.link? id with
    | .ok d, some link => (Membership.ofDecision d, describing shapes link above)
    | .ok d, none => (Membership.ofDecision d, [])
    | .error _, _ => (.undetermined, [])
  { id, kind := node.kind, name := node.name, path := t.displayPath id, parent := t.parent? id,
    membership, matched }

/-- What keeps a node from being decided. -/
def finding? (t : LiveTree) (sieve : Sieve) (id : Nat)
    (above : List LiveLink := t.linksAbove id) : Option Finding :=
  (t.node? id).bind fun node =>
    match t.decide sieve id node above with
    | .ok _ => none
    | .error e => some e

/-- A node that waits to be visited, and the links above it, outermost first. -/
structure Visit where
  id : Nat
  above : List LiveLink

/-- What a walk over a live tree has come to: the visits that wait, what was said of each node, by
number, and what was found. -/
structure Reconciling where
  waiting : List Visit
  slots : Array (Option AnnotatedNode)
  findings : List Finding

namespace Reconciling

/-- The roots wait, and nothing was said of any node. -/
def start (t : LiveTree) : Reconciling where
  waiting := t.roots.map (⟨·, []⟩)
  slots := Array.replicate t.size none
  findings := []

/-- Makes the first visit that waits. What stands below the node waits before the others. -/
def step (t : LiveTree) (sieve : Sieve) (shapes : List Shape) (r : Reconciling) : Reconciling :=
  match r.waiting with
  | [] => r
  | v :: waiting =>
    match t.node? v.id with
    | none => { r with waiting }
    | some node =>
      let below := v.above ++ (t.link? v.id).toList
      { waiting := (t.children v.id).map (⟨·, below⟩) ++ waiting
        slots := r.slots.setIfInBounds v.id (some (t.annotate sieve shapes v.id node v.above))
        findings := r.findings ++ (t.finding? sieve v.id v.above).toList }

/-- At most `fuel` visits. -/
def run (t : LiveTree) (sieve : Sieve) (shapes : List Shape) : Nat → Reconciling → Reconciling
  | 0, r => r
  | fuel + 1, r => run t sieve shapes fuel (r.step t sieve shapes)

/-- The slots that were filled, in the order of numbers. -/
def result (r : Reconciling) : AnnotatedTree := ⟨r.slots.toList.filterMap id, r.findings⟩

end Reconciling

/-- Sets a sieve against a live tree. The rules that describe a node are looked for among `shapes`.
Each node is visited once, so the bound cuts nothing off. -/
def reconcile (t : LiveTree) (sieve : Sieve) (shapes : List Shape) : AnnotatedTree :=
  (Reconciling.run t sieve shapes t.size (.start t)).result

end LiveTree

end SchemaSieve
