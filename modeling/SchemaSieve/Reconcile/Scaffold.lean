import SchemaSieve.Live.Tree
import SchemaSieve.Regex.Compile
import SchemaSieve.Rule.Tree

/-!
# Rules from live trees

`LiveTree.scaffold` makes rules that include every discovered table and procedure by its exact name;
a table brings its columns. A named catalog or schema hides the wildcard entry from what stands
beside it, so the objects beside it go into a catalog or schema without a name.

`RuleTree.adopt` makes a rule of a single live node.
-/

namespace SchemaSieve

/-- The order in which kinds contain each other; a later kind can stand inside an earlier one. -/
def ObjectKind.rank : ObjectKind → Nat
  | .catalog => 0
  | .schema => 1
  | .table => 2
  | .column => 3
  | .procedure => 4

namespace LiveTree

/-- Whether a node has a name and a kind with a property. -/
def isNamed (t : LiveTree) (accept : ObjectKind → Bool) (id : Nat) : Bool :=
  (t.node? id).any fun n => accept n.kind && (Text.nonBlank n.name).isSome

/-- Splits members of one place into those that a named container beside them would hide, which are
all of a deeper kind, and the others. Nothing is hidden unless a named container stands there
together with a named object that rules can list. -/
def splitHidden (t : LiveTree) (container : ObjectKind) (members : List Nat) :
    List Nat × List Nat :=
  let hides := members.any (t.isNamed (· == container))
  let listed := members.any (t.isNamed fun k => container.rank < k.rank && k != .column)
  if hides && listed then
    members.partition fun id => (t.node? id).any fun n => container.rank < n.kind.rank
  else ([], members)

end LiveTree

/-- The pattern source that accepts one name. -/
def literalSource (name : String) : String := Regex.escape name

/-- The rule that a live node becomes, unless it has no name. -/
def LiveNode.rule? (n : LiveNode) (polarity : Polarity) : Option RuleNode :=
  (Text.nonBlank n.name).map fun name =>
    match RuleNode.ofKind? n.kind polarity (literalSource name) with
    | some rule => rule
    | none => if n.kind = .catalog then .catalog (some name) else .schema (some name)

/-! ## Scaffolding -/

/-- Rules being scaffolded, and the containers still to be filled with live nodes, the next one
first. -/
structure Scaffolding where
  rules : RuleTree
  pending : List (Nat × List Nat) := []

namespace Scaffolding

/-- Puts a container in a place and keeps live nodes to fill it with. -/
def opened (s : Scaffolding) (place : Nat) (container : RuleNode) (members : List Nat) :
    Scaffolding :=
  match s.rules.getOrInsert place container with
  | .ok (id, rules) => ⟨rules, (id, members) :: s.pending⟩
  | .error _ => s

/-- Lists a live node in a place. Columns, nodes without a name and nodes that may not stand there
are left out. -/
def enlist (live : LiveTree) (place : Nat) (s : Scaffolding) (id : Nat) : Scaffolding :=
  match live.node? id with
  | none => s
  | some node =>
    if node.kind = .column then s
    else
      match node.rule? .includes with
      | none => s
      | some rule =>
        if rule.isContainer then s.opened place rule (live.children id)
        else
          match s.rules.getOrInsert place rule with
          | .ok (_, rules) => { s with rules }
          | .error _ => s

/-- Lists live nodes in a place, then opens a container without a name for the hidden ones. -/
def fill (live : LiveTree) (rules : RuleTree) (place : Nat) (members : List Nat)
    (wildcard : RuleNode) (hidden : List Nat) : Scaffolding :=
  let s := members.foldl (enlist live place) ⟨rules, []⟩
  if hidden.isEmpty then s else s.opened place wildcard hidden

end Scaffolding

namespace LiveTree

/-- Lists live nodes in a schema; nothing can be opened there. -/
def fillSchema (t : LiveTree) (rules : RuleTree) (place : Nat) (members : List Nat) : RuleTree :=
  (Scaffolding.fill t rules place members (.schema none) []).rules

/-- Lists live nodes in a catalog and fills the schemas that come of them. -/
def fillCatalog (t : LiveTree) (rules : RuleTree) (place : Nat) (members : List Nat) : RuleTree :=
  let (hidden, shown) := t.splitHidden .schema members
  let s := Scaffolding.fill t rules place shown (.schema none) hidden
  s.pending.foldl (fun rules (id, members) => t.fillSchema rules id members) s.rules

/-- Fills a namespace that was opened at the root. -/
def fillContainer (t : LiveTree) (rules : RuleTree) (place : Nat) (members : List Nat) : RuleTree :=
  match rules.node? place with
  | some (.catalog _) => t.fillCatalog rules place members
  | _ => t.fillSchema rules place members

/-- The rules that include every discovered table and procedure. -/
def scaffold (t : LiveTree) : RuleTree :=
  let (outside, inside) := t.splitHidden .catalog t.roots
  let s :=
    if outside.isEmpty then
      let (loose, inside) := t.splitHidden .schema inside
      Scaffolding.fill t .empty RuleTree.rootId inside (.schema none) loose
    else Scaffolding.fill t .empty RuleTree.rootId inside (.catalog none) outside
  s.pending.foldl (fun rules (id, members) => t.fillContainer rules id members) s.rules

end LiveTree

/-! ## Adopting -/

/-- Why a live node cannot become a rule. -/
inductive AdoptError where
  | unknownLiveNode (id : Nat)
  | nameless (path : String)
  | excludedContainer (kind : ObjectKind)
  | edit (e : RuleTree.EditError)
  deriving DecidableEq

def AdoptError.message : AdoptError → String
  | unknownLiveNode id => s!"unknown live node {LiveTree.idText id}"
  | nameless path => s!"live node {path} has no name"
  | excludedContainer kind => s!"a {kind.name} cannot be excluded"
  | edit e => e.message

/-- Adds the rule of a live node below a target, or beside the target if it cannot hold the rule.
The result has the number of the new rule; there is none if an equal rule stands there already. -/
def RuleTree.adopt (t : RuleTree) (target : Nat) (live : LiveTree) (id : Nat)
    (polarity : Polarity) : Except AdoptError (Option Nat × RuleTree) :=
  match live.node? id with
  | none => .error (.unknownLiveNode id)
  | some node =>
    match node.rule? polarity with
    | none => .error (.nameless (live.displayPath id))
    | some rule =>
      if node.kind.isContainer && polarity == .excludes then .error (.excludedContainer node.kind)
      else
        match t.node? target with
        | none => .error (.edit (.unknownNode target))
        | some holder =>
          let place := if holder.canContain rule then target else (t.parent? target).getD target
          match t.insert place rule with
          | .ok (id, t) => .ok (some id, t)
          | .error (.duplicate ..) => .ok (none, t)
          | .error e => .error (.edit e)

end SchemaSieve
