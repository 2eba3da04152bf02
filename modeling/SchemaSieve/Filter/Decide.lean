import SchemaSieve.Filter.Finding
import SchemaSieve.Filter.Sieve

/-!
# Decisions

Whether an object, given by its name and the names of what it stands in, passes a sieve.
-/

namespace SchemaSieve

/-- Whether an object is part of the import. -/
inductive Decision where
  | included
  | excluded
  deriving DecidableEq

namespace Decision

def ofBool (b : Bool) : Decision := if b then included else excluded

def name : Decision → String
  | included => "included"
  | excluded => "excluded"

end Decision

/-- The name of an object and the names of what it stands in. A blank name of a catalog or a schema
counts as missing. -/
structure ObjectPath where
  catalog : Option String := none
  schema : Option String := none
  table : Option String := none
  name : Option String := none
  deriving DecidableEq

/-- The names that are present, joined by points; a missing name of the object shows as `?`. -/
def ObjectPath.text (p : ObjectPath) : String :=
  ".".intercalate ([p.catalog, p.schema, p.table].filterMap id ++ [p.name.getD "?"])

namespace Sieve

/-- The entry of the schema that an object stands in. -/
def scope? (s : Sieve) (path : ObjectPath) : Option SchemaEntry :=
  s.schema? (Text.nonBlank path.catalog) (Text.nonBlank path.schema)

/-- Whether an object passes the filters of the schema it stands in; without an entry there, it
does not. -/
def decideInScope (s : Sieve) (path : ObjectPath) (test : FilterSet → Bool) : Decision :=
  .ofBool ((s.scope? path).any fun e => test e.filters)

/-- Decides about an object. A catalog or schema is included if it has an entry; a table or
procedure must pass the filter for its kind; a column must pass the filter of its table. -/
def decide (s : Sieve) (path : ObjectPath) (kind : ObjectKind) : Except Finding Decision :=
  match Text.nonBlank path.name with
  | none => .error (.malformedObject path.text (.nameless kind))
  | some name =>
    match kind with
    | .catalog => .ok (.ofBool (s.catalog? (some name)).isSome)
    | .schema => .ok (.ofBool (s.schema? (Text.nonBlank path.catalog) (some name)).isSome)
    | .table => .ok (s.decideInScope path (·.tables.accepts name))
    | .procedure => .ok (s.decideInScope path (·.procedures.accepts name))
    | .column =>
      match Text.nonBlank path.table with
      | none => .error (.malformedObject path.text .tableless)
      | some table => .ok (s.decideInScope path (·.tables.acceptsColumn table name))

end Sieve

end SchemaSieve
