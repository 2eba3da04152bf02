import SchemaSieve.Rule.Document
import SchemaSieve.Yaml.Printer

/-!
# Rules documents as text

The YAML form of rules documents. Names that are missing and lists that are empty are not written.
-/

namespace SchemaSieve

open Yaml (Value)

/-- An entry for a list of sources, unless it is empty. -/
def sourcesEntry (key : String) (sources : List String) : List (String × Value) :=
  if sources.isEmpty then [] else [(key, .list (sources.map .text))]

/-- An entry for a list of parts, unless it is empty. -/
def partsEntry (key : String) (parts : List Value) : List (String × Value) :=
  if parts.isEmpty then [] else [(key, .list parts)]

/-- An entry for a name, unless it is missing. -/
def nameEntry (name : Option String) : List (String × Value) :=
  (name.map fun n => ("name", Value.text n)).toList

def IncludeTableRule.toValue : IncludeTableRule → Value
  | bare pattern => .text pattern
  | detailed pattern includes excludes =>
    .mapping ([("pattern", .text pattern)] ++ sourcesEntry "include_columns" includes ++
      sourcesEntry "exclude_columns" excludes)

def RuleLists.toEntries (r : RuleLists) : List (String × Value) :=
  partsEntry "include_tables" (r.includeTables.map IncludeTableRule.toValue) ++
    sourcesEntry "exclude_tables" r.excludeTables ++
    sourcesEntry "include_columns" r.includeColumns ++
    sourcesEntry "exclude_columns" r.excludeColumns ++
    sourcesEntry "include_procedures" r.includeProcedures ++
    sourcesEntry "exclude_procedures" r.excludeProcedures

def SchemaRules.toValue (s : SchemaRules) : Value :=
  .mapping (nameEntry s.name ++ s.rules.toEntries)

def CatalogRules.toValue (c : CatalogRules) : Value :=
  .mapping (nameEntry c.name ++ partsEntry "schemas" (c.schemas.map SchemaRules.toValue) ++
    c.rules.toEntries)

def RulesDocument.toValue (d : RulesDocument) : Value :=
  .mapping ([("version", .text d.version)] ++
    partsEntry "catalogs" (d.catalogs.map CatalogRules.toValue) ++
    partsEntry "schemas" (d.schemas.map SchemaRules.toValue) ++ d.rules.toEntries)

/-- The text of a document. -/
def RulesDocument.toYaml (d : RulesDocument) : String := d.toValue.render

end SchemaSieve
