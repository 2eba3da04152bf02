import SchemaSieve.Rule.Tree

/-!
# Rules documents

The form in which users write rules: namespaces with their rules sorted into six lists. A document
and a rule tree say the same: `RuleTree.ofDocument` plants the lists in a fixed order, and
`RuleTree.toDocument` sorts the nodes of a tree into lists again, without those that stand where a
document has no place for them.
-/

namespace SchemaSieve

/-- A rule that includes tables: a pattern alone, or a pattern with rules for the columns of the
tables it matches. -/
inductive IncludeTableRule where
  | bare (pattern : String)
  | detailed (pattern : String) (includeColumns excludeColumns : List String)
  deriving DecidableEq

namespace IncludeTableRule

def pattern : IncludeTableRule → String
  | bare p => p
  | detailed p _ _ => p

def includeColumns : IncludeTableRule → List String
  | bare _ => []
  | detailed _ cs _ => cs

def excludeColumns : IncludeTableRule → List String
  | bare _ => []
  | detailed _ _ cs => cs

/-- The shortest way to write a pattern with its column rules. -/
def of (pattern : String) (includeColumns excludeColumns : List String) : IncludeTableRule :=
  if includeColumns.isEmpty && excludeColumns.isEmpty then bare pattern
  else detailed pattern includeColumns excludeColumns

end IncludeTableRule

/-- The six rule lists that every namespace may hold. -/
structure RuleLists where
  includeTables : List IncludeTableRule := []
  excludeTables : List String := []
  includeColumns : List String := []
  excludeColumns : List String := []
  includeProcedures : List String := []
  excludeProcedures : List String := []
  deriving DecidableEq

def RuleLists.isEmpty (r : RuleLists) : Bool :=
  r.includeTables.isEmpty && r.excludeTables.isEmpty && r.includeColumns.isEmpty &&
    r.excludeColumns.isEmpty && r.includeProcedures.isEmpty && r.excludeProcedures.isEmpty

/-- The rules of a schema; without a name they are for any other schema. -/
structure SchemaRules where
  name : Option String := none
  rules : RuleLists := {}
  deriving DecidableEq

/-- The rules of a catalog; without a name they are for any other catalog. -/
structure CatalogRules where
  name : Option String := none
  schemas : List SchemaRules := []
  rules : RuleLists := {}
  deriving DecidableEq

/-- A whole document. Its own rules and schemas apply in every catalog. -/
structure RulesDocument where
  version : String := "1.0.0"
  catalogs : List CatalogRules := []
  schemas : List SchemaRules := []
  rules : RuleLists := {}
  deriving DecidableEq

namespace RulesDocument

/-- The document that declares nothing. -/
def empty : RulesDocument := {}

def isEmpty (d : RulesDocument) : Bool :=
  d.catalogs.isEmpty && d.schemas.isEmpty && d.rules.isEmpty

/-- The first catalog with a name. -/
def catalog? (d : RulesDocument) (name : String) : Option CatalogRules :=
  d.catalogs.find? fun c => c.name == some name

end RulesDocument

/-! ## From documents to trees -/

/-- A rule with nothing below it. -/
def leaf (subject : RuleSubject) (polarity : Polarity) (pattern : String) :
    Branch RuleNode :=
  .mk (.rule subject polarity pattern) []

def IncludeTableRule.branch (r : IncludeTableRule) : Branch RuleNode :=
  .mk (.includeTable r.pattern)
    (r.includeColumns.map (leaf .column .includes) ++ r.excludeColumns.map (leaf .column .excludes))

def RuleLists.branches (r : RuleLists) : List (Branch RuleNode) :=
  r.includeTables.map IncludeTableRule.branch ++
    r.excludeTables.map (leaf .table .excludes) ++
    r.includeColumns.map (leaf .column .includes) ++
    r.excludeColumns.map (leaf .column .excludes) ++
    r.includeProcedures.map (leaf .procedure .includes) ++
    r.excludeProcedures.map (leaf .procedure .excludes)

def SchemaRules.branch (s : SchemaRules) : Branch RuleNode :=
  .mk (.schema s.name) s.rules.branches

def CatalogRules.branch (c : CatalogRules) : Branch RuleNode :=
  .mk (.catalog c.name) (c.schemas.map SchemaRules.branch ++ c.rules.branches)

/-- What a document puts below the root: catalogs, schemas, then its own rules. -/
def RulesDocument.branches (d : RulesDocument) : List (Branch RuleNode) :=
  d.catalogs.map CatalogRules.branch ++ d.schemas.map SchemaRules.branch ++ d.rules.branches

/-! ## From trees to documents -/

/-- The patterns of the rules of one form among some branches. -/
def patternsOf (subject : RuleSubject) (polarity : Polarity)
    (branches : List (Branch RuleNode)) : List String :=
  branches.filterMap fun b =>
    match b.value with
    | .rule s p pattern => if s = subject ∧ p = polarity then some pattern else none
    | _ => none

def IncludeTableRule.ofBranch? (b : Branch RuleNode) : Option IncludeTableRule :=
  match b.value with
  | .rule .table .includes pattern =>
    some (.of pattern (patternsOf .column .includes b.children)
      (patternsOf .column .excludes b.children))
  | _ => none

def RuleLists.ofBranches (branches : List (Branch RuleNode)) : RuleLists where
  includeTables := branches.filterMap IncludeTableRule.ofBranch?
  excludeTables := patternsOf .table .excludes branches
  includeColumns := patternsOf .column .includes branches
  excludeColumns := patternsOf .column .excludes branches
  includeProcedures := patternsOf .procedure .includes branches
  excludeProcedures := patternsOf .procedure .excludes branches

def SchemaRules.ofBranch? (b : Branch RuleNode) : Option SchemaRules :=
  match b.value with
  | .schema name => some ⟨name, .ofBranches b.children⟩
  | _ => none

def CatalogRules.ofBranch? (b : Branch RuleNode) : Option CatalogRules :=
  match b.value with
  | .catalog name =>
    some ⟨name, b.children.filterMap SchemaRules.ofBranch?, .ofBranches b.children⟩
  | _ => none

/-- The document of what stands below a root; other nodes than a document can hold are left out. -/
def RulesDocument.ofBranches (branches : List (Branch RuleNode)) : RulesDocument where
  catalogs := branches.filterMap CatalogRules.ofBranch?
  schemas := branches.filterMap SchemaRules.ofBranch?
  rules := .ofBranches branches

namespace RuleTree

/-- The tree of a document. -/
def ofDocument (d : RulesDocument) : RuleTree :=
  ⟨empty.forest.graftAll (some rootId) d.branches⟩

/-- The document of a tree. -/
def toDocument (t : RuleTree) : RulesDocument := .ofBranches t.branch.children

end RuleTree

end SchemaSieve
