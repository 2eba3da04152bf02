import SchemaSieve.Live.Tree
import SchemaSieve.Yaml.Reading

/-!
# Snapshots

A snapshot is the list of the objects that were discovered in a database, as a document.
-/

namespace SchemaSieve

open Yaml (Node Reading Site TextFault)

/-- An object of which some fields were read. -/
private structure ObjectDraft where
  kind : Option ObjectKind := none
  name : Option (Option String) := none
  catalog : Option (Option String) := none
  schema : Option (Option String) := none
  table : Option (Option String) := none

/-- The kinds, in the order in which messages list them. -/
def ObjectKind.all : List ObjectKind := [catalog, schema, table, column, procedure]

namespace DiscoveredObject

private def addField (o : ObjectDraft) (key : String) (site : Site) (n : Node) :
    Reading ObjectDraft := do
  let name (old : Option (Option String)) :=
    Reading.once old key (Reading.option (Reading.text "a string") site n)
  match key with
  | "kind" =>
    let names := ObjectKind.all.map ObjectKind.name
    let kind ← Reading.once o.kind "kind" (Reading.name names ObjectKind.ofName? site n)
    return { o with kind }
  | "name" => return { o with name := ← name o.name }
  | "catalog" => return { o with catalog := ← name o.catalog }
  | "schema" => return { o with schema := ← name o.schema }
  | "table" => return { o with table := ← name o.table }
  | _ => return o

/-- Reads an object. It has to have a kind; fields of other names are passed over. -/
def read (site : Site) (n : Node) : Reading DiscoveredObject :=
  Reading.mapping "struct DiscoveredObject" ({} : ObjectDraft) addField
    (fun o =>
      match o.kind with
      | some kind => .ok ⟨kind, o.name.join, o.catalog.join, o.schema.join, o.table.join⟩
      | none => .error (.missingField "kind"))
    site n

end DiscoveredObject

/-- The objects that were discovered. -/
structure Snapshot where
  objects : List DiscoveredObject := []
  deriving DecidableEq

namespace Snapshot

private def addField (objects : Option (List DiscoveredObject)) (key : String) (site : Site)
    (n : Node) : Reading (Option (List DiscoveredObject)) :=
  if key = "objects" then
    Reading.once objects "objects" (Reading.list DiscoveredObject.read site n)
  else return objects

/-- Reads a snapshot. -/
def read (site : Site) (n : Node) : Reading Snapshot :=
  Reading.mapping "struct SchemaSnapshot" none addField (fun objects => .ok ⟨objects.getD []⟩)
    site n

/-- The snapshot that a text holds. -/
def ofYaml (text : String) : Except TextFault Snapshot := Yaml.readText read text

/-- The objects as a tree. -/
def tree (s : Snapshot) : LiveTree := .ofObjects s.objects

end Snapshot

end SchemaSieve
