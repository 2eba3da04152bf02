import SchemaSieve.Object
import SchemaSieve.Text.Blank

/-!
# Rule nodes

What stands at one place of a rule tree: a namespace, which holds other nodes, or a rule, which
carries a name pattern. `RuleNode.canContain` is the placement table.
-/

namespace SchemaSieve

/-- The kinds of object a rule can speak about. -/
inductive RuleSubject where
  | table
  | column
  | procedure
  deriving DecidableEq

namespace RuleSubject

def kind : RuleSubject → ObjectKind
  | table => .table
  | column => .column
  | procedure => .procedure

/-- The subject of the rules about a kind of object; namespaces have no rules. -/
def ofKind? : ObjectKind → Option RuleSubject
  | .catalog | .schema => none
  | .table => some table
  | .column => some column
  | .procedure => some procedure

theorem ofKind?_eq_some_iff {k : ObjectKind} {s : RuleSubject} : ofKind? k = some s ↔ s.kind = k := by
  cases k <;> cases s <;> simp [ofKind?, kind]

end RuleSubject

/-- One node of a rule tree. A namespace without a name, or with a blank one, stands for every
name that no sibling claims. -/
inductive RuleNode where
  | root
  | catalog (name : Option String)
  | schema (name : Option String)
  | rule (subject : RuleSubject) (polarity : Polarity) (pattern : String)
  deriving DecidableEq

namespace RuleNode

abbrev includeTable (pattern : String) : RuleNode := rule .table .includes pattern

abbrev excludeTable (pattern : String) : RuleNode := rule .table .excludes pattern

abbrev includeColumn (pattern : String) : RuleNode := rule .column .includes pattern

abbrev excludeColumn (pattern : String) : RuleNode := rule .column .excludes pattern

abbrev includeProcedure (pattern : String) : RuleNode := rule .procedure .includes pattern

abbrev excludeProcedure (pattern : String) : RuleNode := rule .procedure .excludes pattern

/-- The rule about a kind of object; a namespace kind has none. -/
def ofKind? (kind : ObjectKind) (polarity : Polarity) (pattern : String) : Option RuleNode :=
  (RuleSubject.ofKind? kind).map fun subject => rule subject polarity pattern

/-- The kind of object a node speaks about; the root speaks about none. -/
def family? : RuleNode → Option ObjectKind
  | root => none
  | catalog _ => some .catalog
  | schema _ => some .schema
  | rule subject _ _ => some subject.kind

def polarity? : RuleNode → Option Polarity
  | rule _ polarity _ => some polarity
  | _ => none

def pattern? : RuleNode → Option String
  | rule _ _ pattern => some pattern
  | _ => none

def isContainer : RuleNode → Bool
  | rule .. => false
  | _ => true

/-- The name of a namespace, a blank one taken for missing. -/
def containerName? : RuleNode → Option String
  | catalog name | schema name => Text.nonBlank name
  | _ => none

/-- What tells a node from others of its form: the name or the pattern. -/
def label? : RuleNode → Option String
  | rule _ _ pattern => some pattern
  | node => node.containerName?

/-- The placement table: which nodes may stand directly below which. -/
def canContain : RuleNode → RuleNode → Bool
  | root, root => false
  | root, _ => true
  | catalog _, root | catalog _, catalog _ => false
  | catalog _, _ => true
  | schema _, rule .. => true
  | rule .table .includes _, rule .column _ _ => true
  | _, _ => false

/-- The node with another name or pattern; the root has neither. -/
def withLabel? : RuleNode → String → Option RuleNode
  | root, _ => none
  | catalog _, label => some (catalog (some label))
  | schema _, label => some (schema (some label))
  | rule subject polarity _, label => some (rule subject polarity label)

/-- Two nodes of one form that carry the same label say the same. -/
def sameAs : RuleNode → RuleNode → Bool
  | root, root => true
  | catalog a, catalog b | schema a, schema b => Text.nonBlank a == Text.nonBlank b
  | rule s p a, rule t q b => s == t && p == q && a == b
  | _, _ => false

/-- A node in words, as messages name it. -/
def text : RuleNode → String
  | root => "root"
  | catalog name => "catalog " ++ (Text.nonBlank name).getD "<any>"
  | schema name => "schema " ++ (Text.nonBlank name).getD "<any>"
  | rule subject polarity pattern => s!"{polarity.name} {subject.kind.name} '{pattern}'"

theorem sameAs_refl (n : RuleNode) : n.sameAs n = true := by
  cases n <;> simp [sameAs]

theorem sameAs_comm (m n : RuleNode) : m.sameAs n = n.sameAs m := by
  cases m <;> cases n <;> simp [sameAs, BEq.comm, Bool.beq_eq_decide_eq]

theorem sameAs_trans {l m n : RuleNode} (hlm : l.sameAs m = true) (hmn : m.sameAs n = true) :
    l.sameAs n = true := by
  cases l <;> cases m <;> cases n <;> simp_all [sameAs]

end RuleNode

end SchemaSieve
