import SchemaSieve.Filter.Finding
import SchemaSieve.Filter.Sieve

/-!
# From rule trees to sieves

Only nodes that stand where the placement table allows count, and of the rules only those with a
pattern that is neither blank nor invalid; `findings` reports the others. Compiling takes two passes.
In the first one, catalogs and schemas that are declared under one name are collected into one. The
second one gives each catalog and schema that rules name an entry, in which the rules of the schema,
of its catalog and of the root are merged in this order.
-/

namespace SchemaSieve

/-! ## What a place declares -/

/-- The children that the placement table allows. -/
def Branch.legalChildren (b : Branch RuleNode) : List (Branch RuleNode) :=
  b.children.filter fun c => b.value.canContain c.value

/-- The pattern of a rule, unless it is blank or does not compile. -/
def validPattern? (source : String) : Option NamePattern :=
  if Text.isBlank source then none else (NamePattern.ofSource source).toOption

namespace FilterSet

/-- The filters that one rule gives. -/
def ofRule (subject : RuleSubject) (polarity : Polarity) (p : NamePattern) : FilterSet :=
  match subject, polarity with
  | .table, .includes => { tables := { includes := [⟨p, none⟩] } }
  | .table, .excludes => { tables := { excludes := [p] } }
  | .column, polarity => { tables := { columns := NameFilter.empty.add polarity p } }
  | .procedure, polarity => { procedures := NameFilter.empty.add polarity p }

/-- The filters that a node gives by itself. -/
def ofNode : RuleNode → FilterSet
  | .rule subject polarity source => (validPattern? source).elim empty (ofRule subject polarity)
  | _ => empty

/-- The column filter of an include-table rule: that of the column rules below it, if there is a
valid one. -/
def overrideOf (b : Branch RuleNode) : Option NameFilter :=
  let columns := (mergeAll (b.legalChildren.map fun c => ofNode c.value)).tables.columns
  if columns.isEmpty then none else some columns

/-- The filters that a rule gives together with the rules below it. -/
def ofBranch (b : Branch RuleNode) : FilterSet :=
  match b.value with
  | .rule .table .includes source =>
    (validPattern? source).elim empty fun p =>
      { tables := { includes := [⟨p, overrideOf b⟩] } }
  | node => ofNode node

/-- The filters that the rules directly in a namespace give. -/
def inside (b : Branch RuleNode) : FilterSet := mergeAll (b.legalChildren.map ofBranch)

end FilterSet

/-- A catalog as rules declare it: with its own rules and those of its schemas. -/
structure CatalogDeclaration where
  name : Option String
  filters : FilterSet
  schemas : List SchemaEntry

/-- The schemas declared directly in a namespace. -/
def declaredSchemas (b : Branch RuleNode) : List SchemaEntry :=
  b.legalChildren.filterMap fun c =>
    match c.value with
    | .schema name => some ⟨Text.nonBlank name, FilterSet.inside c⟩
    | _ => none

/-- The catalogs declared directly in a namespace. -/
def declaredCatalogs (b : Branch RuleNode) : List CatalogDeclaration :=
  b.legalChildren.filterMap fun c =>
    match c.value with
    | .catalog name => some ⟨Text.nonBlank name, FilterSet.inside c, declaredSchemas c⟩
    | _ => none

/-! ## Collecting -/

/-- Lets the first item of the same name absorb an item, which stands last if there is none. -/
def collect {α : Type} (nameOf : α → Option String) (absorb : α → α → α) (x : α) : List α → List α
  | [] => [x]
  | y :: ys => if nameOf y == nameOf x then absorb y x :: ys else y :: collect nameOf absorb x ys

/-- Collects items one by one into those collected before. -/
def collectAll {α : Type} (nameOf : α → Option String) (absorb : α → α → α) (collected : List α)
    (xs : List α) : List α :=
  xs.foldl (fun ys x => collect nameOf absorb x ys) collected

/-- A schema with the filters of another in addition. -/
def SchemaEntry.absorb (s s' : SchemaEntry) : SchemaEntry :=
  { s with filters := s.filters.merge s'.filters }

def collectSchemas : List SchemaEntry → List SchemaEntry → List SchemaEntry :=
  collectAll (·.name) SchemaEntry.absorb

namespace CatalogDeclaration

/-- A catalog with the filters and schemas of another in addition. -/
def absorb (c c' : CatalogDeclaration) : CatalogDeclaration :=
  { c with
    filters := c.filters.merge c'.filters
    schemas := collectSchemas c.schemas c'.schemas }

/-- A catalog with its schemas collected. -/
def collected (c : CatalogDeclaration) : CatalogDeclaration :=
  { c with schemas := collectSchemas [] c.schemas }

end CatalogDeclaration

def collectCatalogs (catalogs : List CatalogDeclaration) : List CatalogDeclaration :=
  collectAll (·.name) CatalogDeclaration.absorb [] (catalogs.map (·.collected))

/-! ## Entries -/

/-- The entries that declared names ask for: each name once, in the order of declaration, then the
wildcard if there is no name or one is missing. -/
def entryNames (declared : List (Option String)) : List (Option String) :=
  let names := mergeNew [] (declared.filterMap id)
  names.map some ++ if names.isEmpty || declared.contains none then [none] else []

namespace Sieve

/-- The entry of a catalog name: the schemas are those of all catalogs with that name, then those
at the root. -/
def catalogEntry (root : FilterSet) (catalogs : List CatalogDeclaration)
    (rootSchemas : List SchemaEntry) (name : Option String) : CatalogEntry :=
  let own := catalogs.filter fun c => c.name == name
  let schemas := own.flatMap (·.schemas) ++ rootSchemas
  ⟨name, (entryNames (schemas.map (·.name))).map fun schemaName =>
    ⟨schemaName, FilterSet.mergeAll
      ((schemas.filter fun s => s.name == schemaName).map (·.filters) ++
        own.map (·.filters) ++ [root])⟩⟩

/-- The sieve of the filters at the root and of catalogs and schemas. -/
def ofDeclarations (root : FilterSet) (catalogs : List CatalogDeclaration)
    (rootSchemas : List SchemaEntry) : Sieve :=
  ⟨(entryNames (catalogs.map (·.name))).map (catalogEntry root catalogs rootSchemas)⟩

/-- The sieve of the rules in a branch that starts at a root. -/
def ofBranch (b : Branch RuleNode) : Sieve :=
  ofDeclarations (FilterSet.inside b) (collectCatalogs (declaredCatalogs b))
    (collectSchemas [] (declaredSchemas b))

end Sieve

/-! ## Findings -/

/-- What is wrong with the pattern of a node; `path` leads from the root to the node. -/
def patternFindings (path : List RuleNode) (node : RuleNode) : List Finding :=
  match node.pattern? with
  | none => []
  | some source =>
    if Text.isBlank source then [.malformedRule (RuleTree.pathText path) .emptyPattern]
    else
      match NamePattern.ofSource source with
      | .ok _ => []
      | .error e => [.invalidPattern source (RuleTree.pathText path) e]

/-- The children that the placement table does not allow; `path` leads from the root to the node
they stand under. -/
def misplacedFindings (path : List RuleNode) (node : RuleNode)
    (children : List (Branch RuleNode)) : List Finding :=
  (children.filter fun c => !node.canContain c.value).map fun c =>
    .malformedRule (RuleTree.pathText (path ++ [c.value])) (.misplaced c.value node)

mutual

/-- What is wrong with a node, then with the placement of its children, then below the children
that may stand there; `path` leads from the root to the node. -/
def findingsFrom (path : List RuleNode) : Branch RuleNode → List Finding
  | .mk node children =>
    patternFindings path node ++ misplacedFindings path node children ++
      findingsBelow path node children

def findingsBelow (path : List RuleNode) (node : RuleNode) :
    List (Branch RuleNode) → List Finding
  | [] => []
  | c :: cs =>
    (if node.canContain c.value then findingsFrom (path ++ [c.value]) c else []) ++
      findingsBelow path node cs

end

/-! ## Compiling -/

/-- A sieve, and what was wrong with the rules it was made from. -/
structure Compilation where
  sieve : Sieve
  findings : List Finding

/-- Whether nothing was wrong. -/
def Compilation.isClean (c : Compilation) : Bool := c.findings.isEmpty

/-- Makes a rule tree ready for questions. -/
def RuleTree.compile (t : RuleTree) : Compilation where
  sieve := .ofBranch t.branch
  findings := findingsFrom [t.branch.value] t.branch

end SchemaSieve
