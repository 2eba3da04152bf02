import SchemaSieve.Filter.Pattern

/-!
# Sieves

Rules made ready for questions: one entry per catalog that rules name, one entry in it per schema,
and in that the filters for tables, columns and procedures. An entry without a name is for all
names that have no entry.
-/

namespace SchemaSieve

/-- A pattern that includes tables, and the filter for their columns if it brings one. -/
structure TableInclude where
  pattern : NamePattern
  columns : Option NameFilter := none
  deriving DecidableEq

/-- The filter for tables and their columns. Includes stand innermost namespace first. -/
structure TableFilter where
  includes : List TableInclude := []
  excludes : List NamePattern := []
  columns : NameFilter := {}
  deriving DecidableEq

namespace TableFilter

def empty : TableFilter := {}

/-- Adds an include behind the others. Two includes may share a pattern, as their columns may
differ. -/
def addInclude (f : TableFilter) (i : TableInclude) : TableFilter :=
  { f with includes := f.includes ++ [i] }

def addExclude (f : TableFilter) (p : NamePattern) : TableFilter :=
  { f with excludes := addNew f.excludes p }

def mergeColumns (f : TableFilter) (columns : NameFilter) : TableFilter :=
  { f with columns := f.columns.merge columns }

def merge (f g : TableFilter) : TableFilter :=
  ⟨f.includes ++ g.includes, mergeNew f.excludes g.excludes, f.columns.merge g.columns⟩

/-- A table passes if some include matches it, or there is none, and no exclude does. -/
def accepts (f : TableFilter) (table : String) : Bool :=
  (f.includes.isEmpty || f.includes.any (·.pattern.accepts table)) &&
    !f.excludes.any (·.accepts table)

/-- The filter for the columns of a table: that of the first matching include which brings one,
else the common one. -/
def columnFilter (f : TableFilter) (table : String) : NameFilter :=
  ((f.includes.filter (·.pattern.accepts table)).findSome? (·.columns)).getD f.columns

def acceptsColumn (f : TableFilter) (table column : String) : Bool :=
  (f.columnFilter table).accepts column

end TableFilter

/-- The filters that rules in one place give, or rules in several places together. -/
structure FilterSet where
  tables : TableFilter := {}
  procedures : NameFilter := {}
  deriving DecidableEq

namespace FilterSet

def empty : FilterSet := {}

/-- The filters of two places together, those of the first one in front. -/
def merge (a b : FilterSet) : FilterSet :=
  ⟨a.tables.merge b.tables, a.procedures.merge b.procedures⟩

/-- The filters of several places together, innermost first. -/
def mergeAll (sets : List FilterSet) : FilterSet := sets.foldl merge empty

end FilterSet

/-- The entry of a schema. -/
structure SchemaEntry where
  name : Option String
  filters : FilterSet
  deriving DecidableEq

/-- The entry of a catalog. -/
structure CatalogEntry where
  name : Option String
  schemas : List SchemaEntry
  deriving DecidableEq

/-- Rules made ready for questions. -/
structure Sieve where
  catalogs : List CatalogEntry := []
  deriving DecidableEq

/-- The entry for a name: the first one with that name, else the first one without a name. -/
def findEntry? {α : Type} (nameOf : α → Option String) (name : Option String) (entries : List α) :
    Option α :=
  (name.bind fun n => entries.find? fun e => nameOf e == some n) <|>
    entries.find? fun e => (nameOf e).isNone

namespace Sieve

/-- The entry of a live catalog. -/
def catalog? (s : Sieve) (catalog : Option String) : Option CatalogEntry :=
  findEntry? CatalogEntry.name catalog s.catalogs

/-- The entry of a live schema. -/
def schema? (s : Sieve) (catalog schema : Option String) : Option SchemaEntry :=
  (s.catalog? catalog).bind fun c => findEntry? SchemaEntry.name schema c.schemas

end Sieve

end SchemaSieve
