import SchemaSieve.Rule.Document
import SchemaSieve.Yaml.Datum

/-!
# Reading rules documents

The fields of a document may come in any order, and fields of other names are passed over. The rule
lists of a namespace are read only when all its entries have been seen, so a fault in one of them
is placed at the namespace.
-/

namespace SchemaSieve

open Yaml (Datum Mismatch Node Reading Site TextFault)

/-! ## Rule lists -/

/-- The fields of an include-table rule with columns. -/
inductive IncludeField where
  | pattern
  | includeColumns
  | excludeColumns
  | other

/-- The field that a key means; a number counts the fields. -/
def IncludeField.ofKey : Datum → Except Mismatch IncludeField
  | .text "pattern" | .int 0 => .ok pattern
  | .text "include_columns" | .int 1 => .ok includeColumns
  | .text "exclude_columns" | .int 2 => .ok excludeColumns
  | .text _ => .ok other
  | .int n =>
    if 0 ≤ n then .ok other else .error (.wrongType (.int n) "field identifier")
  | d => .error (.wrongType d.found "field identifier")

/-- An include-table rule of which some fields are known. -/
structure IncludeDraft where
  pattern : Option String := none
  includeColumns : Option (List String) := none
  excludeColumns : Option (List String) := none

def IncludeDraft.add (r : IncludeDraft) (entry : Datum × Datum) :
    Except Mismatch IncludeDraft := do
  match ← IncludeField.ofKey entry.1 with
  | .pattern =>
    if r.pattern.isSome then .error (.repeatedField "pattern")
    else return { r with pattern := some (← entry.2.text? "a string") }
  | .includeColumns =>
    if r.includeColumns.isSome then .error (.repeatedField "include_columns")
    else return { r with includeColumns := some (← entry.2.texts?) }
  | .excludeColumns =>
    if r.excludeColumns.isSome then .error (.repeatedField "exclude_columns")
    else return { r with excludeColumns := some (← entry.2.texts?) }
  | .other => return r

/-- An include-table rule with columns: a mapping of its fields, or a list of them in their order. -/
def IncludeTableRule.detailedOf (d : Datum) : Except Mismatch IncludeTableRule :=
  match d with
  | .mapping entries => do
    let r ← entries.foldlM IncludeDraft.add {}
    match r.pattern with
    | some pattern =>
      return .detailed pattern (r.includeColumns.getD []) (r.excludeColumns.getD [])
    | none => .error (.missingField "pattern")
  | .list [pattern] => do return .detailed (← pattern.text? "a string") [] []
  | .list [pattern, includes] => do
    return .detailed (← pattern.text? "a string") (← includes.texts?) []
  | .list [pattern, includes, excludes] => do
    return .detailed (← pattern.text? "a string") (← includes.texts?) (← excludes.texts?)
  | .list items => .error (.wrongLength items.length "struct IncludeTableSpec with 3 elements")
  | d => .error (.wrongType d.found "struct IncludeTableSpec")

/-- An include-table rule: a text is a bare pattern. Why something is neither form is not told. -/
def IncludeTableRule.ofDatum (d : Datum) : Except Mismatch IncludeTableRule :=
  match d with
  | .text pattern => .ok (.bare pattern)
  | d =>
    match IncludeTableRule.detailedOf d with
    | .ok r => .ok r
    | .error _ => .error (.noVariant "IncludeTableRule")

/-- The six lists as far as they are known. -/
structure RuleListsDraft where
  includeTables : Option (List IncludeTableRule) := none
  excludeTables : Option (List String) := none
  includeColumns : Option (List String) := none
  excludeColumns : Option (List String) := none
  includeProcedures : Option (List String) := none
  excludeProcedures : Option (List String) := none

/-- The new value of a field that has none yet. -/
def onlyOnce {α : Type} (old : Option α) (name : String) (new : Except Mismatch α) :
    Except Mismatch (Option α) :=
  if old.isSome then .error (.repeatedField name) else new.map some

def RuleListsDraft.add (r : RuleListsDraft) (entry : String × Datum) :
    Except Mismatch RuleListsDraft := do
  let d := entry.2
  match entry.1 with
  | "include_tables" =>
    let rules := do (← d.list?).mapM IncludeTableRule.ofDatum
    return { r with includeTables := ← onlyOnce r.includeTables "include_tables" rules }
  | "exclude_tables" =>
    return { r with excludeTables := ← onlyOnce r.excludeTables "exclude_tables" d.texts? }
  | "include_columns" =>
    return { r with includeColumns := ← onlyOnce r.includeColumns "include_columns" d.texts? }
  | "exclude_columns" =>
    return { r with excludeColumns := ← onlyOnce r.excludeColumns "exclude_columns" d.texts? }
  | "include_procedures" =>
    return { r with
      includeProcedures := ← onlyOnce r.includeProcedures "include_procedures" d.texts? }
  | "exclude_procedures" =>
    return { r with
      excludeProcedures := ← onlyOnce r.excludeProcedures "exclude_procedures" d.texts? }
  | _ => return r

/-- The rule lists among the entries of a namespace. -/
def RuleLists.ofEntries (entries : List (String × Datum)) : Except Mismatch RuleLists := do
  let r ← entries.foldlM RuleListsDraft.add {}
  return {
    includeTables := r.includeTables.getD []
    excludeTables := r.excludeTables.getD []
    includeColumns := r.includeColumns.getD []
    excludeColumns := r.excludeColumns.getD []
    includeProcedures := r.includeProcedures.getD []
    excludeProcedures := r.excludeProcedures.getD [] }

/-! ## Namespaces -/

/-- A namespace of which some entries were read; those that are none of its own fields are kept, in
reverse. -/
structure NamespaceDraft where
  version : Option String := none
  name : Option (Option String) := none
  catalogs : Option (List CatalogRules) := none
  schemas : Option (List SchemaRules) := none
  others : List (String × Datum) := []

namespace NamespaceDraft

def addOther (s : NamespaceDraft) (key : String) (site : Site) (n : Node) :
    Reading NamespaceDraft := do
  return { s with others := (key, ← Datum.read site n) :: s.others }

def addName (s : NamespaceDraft) (site : Site) (n : Node) : Reading NamespaceDraft := do
  let name ← Reading.once s.name "name" (Reading.option (Reading.text "a string") site n)
  return { s with name }

def rules (s : NamespaceDraft) : Except Mismatch RuleLists :=
  RuleLists.ofEntries s.others.reverse

end NamespaceDraft

namespace SchemaRules

def addField (s : NamespaceDraft) (key : String) (site : Site) (n : Node) :
    Reading NamespaceDraft :=
  if key = "name" then s.addName site n else s.addOther key site n

/-- Reads the rules of a schema. -/
def read (site : Site) (n : Node) : Reading SchemaRules :=
  Reading.mapping "struct SchemaRules" ({} : NamespaceDraft) addField
    (fun s => do return ⟨s.name.join, ← s.rules⟩) site n

end SchemaRules

def NamespaceDraft.addSchemas (s : NamespaceDraft) (site : Site) (n : Node) :
    Reading NamespaceDraft := do
  let schemas ← Reading.once s.schemas "schemas" (Reading.list SchemaRules.read site n)
  return { s with schemas }

namespace CatalogRules

def addField (s : NamespaceDraft) (key : String) (site : Site) (n : Node) :
    Reading NamespaceDraft :=
  match key with
  | "name" => s.addName site n
  | "schemas" => s.addSchemas site n
  | _ => s.addOther key site n

/-- Reads the rules of a catalog. -/
def read (site : Site) (n : Node) : Reading CatalogRules :=
  Reading.mapping "struct CatalogRules" ({} : NamespaceDraft) addField
    (fun s => do return ⟨s.name.join, s.schemas.getD [], ← s.rules⟩) site n

end CatalogRules

namespace RulesDocument

def addField (s : NamespaceDraft) (key : String) (site : Site) (n : Node) :
    Reading NamespaceDraft := do
  match key with
  | "version" =>
    let version ← Reading.once s.version "version" (Reading.text "a string" site n)
    return { s with version }
  | "catalogs" =>
    let catalogs ← Reading.once s.catalogs "catalogs" (Reading.list CatalogRules.read site n)
    return { s with catalogs }
  | "schemas" => s.addSchemas site n
  | _ => s.addOther key site n

/-- Reads a rules document. -/
def read (site : Site) (n : Node) : Reading RulesDocument :=
  Reading.mapping "struct RulesDefinition" ({} : NamespaceDraft) addField
    (fun s => do
      return ⟨s.version.getD empty.version, s.catalogs.getD [], s.schemas.getD [], ← s.rules⟩)
    site n

/-- The document that a text holds. -/
def ofYaml (text : String) : Except TextFault RulesDocument := Yaml.readText read text

end RulesDocument

end SchemaSieve
