/-!
# Database objects

The kinds of object a database schema holds, and the two ways a rule can speak about them.
-/

namespace SchemaSieve

/-- The kinds of object a database schema holds. -/
inductive ObjectKind where
  | catalog
  | schema
  | table
  | column
  | procedure
  deriving DecidableEq

namespace ObjectKind

/-- Catalogs and schemas are namespaces; the other kinds are leaf objects. -/
def isContainer : ObjectKind → Bool
  | catalog | schema => true
  | table | column | procedure => false

/-- The word for a kind. -/
def name : ObjectKind → String
  | catalog => "catalog"
  | schema => "schema"
  | table => "table"
  | column => "column"
  | procedure => "procedure"

/-- The kind that a word names, as documents spell it. -/
def ofName? : String → Option ObjectKind
  | "catalog" => some catalog
  | "schema" => some schema
  | "table" => some table
  | "column" => some column
  | "procedure" => some procedure
  | _ => none

/-- A word that names no kind, in lower case. -/
structure Unknown where
  word : String
  deriving DecidableEq

def Unknown.message (e : Unknown) : String :=
  s!"unknown object kind '{e.word}'"

/-- The kind that a word typed by a user names. Letter case does not matter, and a function is a
procedure. -/
def parse (word : String) : Except Unknown ObjectKind :=
  match word.toLower with
  | "function" => .ok procedure
  | w => (ofName? w).elim (.error ⟨w⟩) .ok

@[simp] theorem ofName?_name (k : ObjectKind) : ofName? k.name = some k := by
  cases k <;> rfl

end ObjectKind

/-- Whether a rule pulls objects in or pushes them out. -/
inductive Polarity where
  | includes
  | excludes
  deriving DecidableEq

/-- The word for a polarity. -/
def Polarity.name : Polarity → String
  | includes => "include"
  | excludes => "exclude"

end SchemaSieve
