import SchemaSieve.Text.CharSet
import SchemaSieve.Text.Unicode.Age
import SchemaSieve.Text.Unicode.CaseFolding
import SchemaSieve.Text.Unicode.Category
import SchemaSieve.Text.Unicode.Names
import SchemaSieve.Text.Unicode.Property
import SchemaSieve.Text.Unicode.Script
import SchemaSieve.Text.Unicode.Segmentation

/-!
# Asking for Unicode properties

Finds the set of characters that a property name, or a property name with a value, stands for, and
closes sets under simple case folding.
-/

namespace SchemaSieve.Text.Unicode

/-- What a class such as `\p{Greek}` or `\p{Script=Greek}` asks for. -/
inductive PropertyQuery where
  | named (name : String)
  | valued (name value : String)
  deriving DecidableEq

/-- Why a query has no answer. -/
inductive QueryError where
  | unknownProperty
  | unknownValue
  deriving DecidableEq

/-- A name as the tables spell it: in lower case, without spaces, dashes, underscores and characters
beyond ASCII, and without `is` in front. The one name that would be lost, `isc`, keeps it. -/
def looseName (name : String) : String :=
  let plain (cs : List Char) :=
    (cs.filter fun c => c != ' ' && c != '_' && c != '-' && c.toNat < 0x80).map Char.toLower
  match name.toList with
  | 'i' :: 's' :: rest | 'I' :: 's' :: rest | 'i' :: 'S' :: rest | 'I' :: 'S' :: rest =>
    if plain rest = ['c'] then "isc" else String.ofList (plain rest)
  | cs => String.ofList (plain cs)

/-- The categories that a category is made of. -/
private def subcategories : String → List String
  | "C" => ["Cc", "Cf", "Cn", "Co"]
  | "L" => ["Lu", "Ll", "Lt", "Lm", "Lo"]
  | "LC" => ["Lu", "Ll", "Lt"]
  | "M" => ["Mn", "Mc", "Me"]
  | "N" => ["Nd", "Nl", "No"]
  | "P" => ["Pc", "Pd", "Ps", "Pe", "Pi", "Pf", "Po"]
  | "S" => ["Sm", "Sc", "Sk", "So"]
  | "Z" => ["Zs", "Zl", "Zp"]
  | name => [name]

private def readTable (table : List (String × List String)) (name : String) : Option CharSet :=
  (table.lookup name).map CharSet.ofHex

/-- The characters of a category, or of the categories it is made of. Surrogates are no characters,
so their category is not in the table. -/
def category? (name : String) : Option CharSet :=
  match name with
  | "Any" => some (.range 0 CharSet.maxCodePoint)
  | "Ascii" => some (.range 0 0x7F)
  | "Assigned" =>
    (readTable categoryTable "Cn").map fun s => s.complement CharSet.maxCodePoint
  | _ => do
    let sets ← (subcategories name).mapM (readTable categoryTable)
    return .ofRanges (sets.flatMap CharSet.ranges)

private def categoryName? : String → Option String
  | "any" => some "Any"
  | "ascii" => some "Ascii"
  | "assigned" => some "Assigned"
  | name => categoryNames.lookup name

private def script? (name : String) : Option CharSet := readTable scriptTable name

private def scriptExtensions? (name : String) : Option CharSet :=
  readTable scriptExtensionTable name <|> script? name

/-- What was assigned up to a version: everything in the table down to its entry. -/
private def age? (version : String) : Option CharSet :=
  if (ageTable.lookup version).isNone then none
  else
    let before := ageTable.takeWhile fun e => e.1 != version
    let sets := (before.map fun e => CharSet.ofHex e.2) ++ (readTable ageTable version).toList
    some (.ofRanges (sets.flatMap CharSet.ranges))

private def named (names : List (String × String)) (value : String)
    (find : String → Option CharSet) : Except QueryError CharSet :=
  ((names.lookup value).bind find).elim (.error .unknownValue) .ok

/-- The set that a value of a property stands for. A property without a list of values has no
value. -/
private def ofValue (property value : String) : Except QueryError CharSet :=
  match property with
  | "General_Category" => ((categoryName? value).bind category?).elim (.error .unknownValue) .ok
  | "Script" => named scriptNames value script?
  | "Script_Extensions" => named scriptNames value scriptExtensions?
  | "Age" => named ageNames value age?
  | "Grapheme_Cluster_Break" => named graphemeBreakNames value (readTable graphemeBreakTable)
  | "Word_Break" => named wordBreakNames value (readTable wordBreakTable)
  | "Sentence_Break" => named sentenceBreakNames value (readTable sentenceBreakTable)
  | _ => .error .unknownValue

/-- The set that a name alone stands for: a binary property, else a category, else a script. Three
names of properties are left to the categories of the same name. -/
private def ofName (name : String) : Except QueryError CharSet :=
  let property? := if name = "cf" ∨ name = "sc" ∨ name = "lc" then none else propertyNames.lookup name
  match property? with
  | some property => (readTable propertyTable property).elim (.error .unknownProperty) .ok
  | none =>
    match categoryName? name with
    | some category => (category? category).elim (.error .unknownValue) .ok
    | none =>
      match scriptNames.lookup name with
      | some script => (script? script).elim (.error .unknownValue) .ok
      | none => .error .unknownProperty

/-- The set of characters that a query asks for. -/
def PropertyQuery.find : PropertyQuery → Except QueryError CharSet
  | named name => ofName (looseName name)
  | valued name value =>
    match propertyNames.lookup (looseName name) with
    | some property => ofValue property (looseName value)
    | none => .error .unknownProperty

private def require (set : Option CharSet) : CharSet := set.getD .empty

/-- Decimal digits of all scripts. -/
def digitSet : CharSet := require (category? "Nd")

/-- The characters with the property `White_Space`. -/
def spaceSet : CharSet := require (readTable propertyTable "White_Space")

/-- The characters of words: letters, marks, decimal digits, connectors and joiners. -/
def wordSet : CharSet :=
  .ofRanges (["M", "Nd", "Pc"].flatMap (fun c => (require (category? c)).ranges) ++
    ["Alphabetic", "Join_Control"].flatMap (fun p => (require (readTable propertyTable p)).ranges))

/-- The characters that names of groups may start with. -/
def alphabeticSet : CharSet := require (readTable propertyTable "Alphabetic")

/-- The characters that only extend the character before them. -/
def graphemeExtendSet : CharSet := require (readTable propertyTable "Grapheme_Extend")

/-- The characters that stand for numbers. -/
def numberSet : CharSet := require (category? "N")

/-- All groups of letters that differ only in case. -/
def foldOrbits : List (List Nat) :=
  foldGroups ++ foldRuns.flatMap fun (first, count, step, distance) =>
    (List.range count).map fun k => [first + k * step, first + k * step + distance]

/-- A set with all letters that differ from one of its letters only in case. -/
def foldCase (s : CharSet) : CharSet :=
  .ofRanges (s.ranges ++
    (foldOrbits.filter (·.any s.contains)).flatMap fun orbit => orbit.map fun n => (n, n))

/-- A set with the ASCII letters that differ from one of its letters only in case. -/
def foldAsciiCase (s : CharSet) : CharSet :=
  .ofRanges (s.ranges ++ s.ranges.flatMap fun r =>
    [(max r.1 0x41 + 0x20, min r.2 0x5A + 0x20), (max r.1 0x61 - 0x20, min r.2 0x7A - 0x20)])

/-- The letters that differ from a character only in case, itself included; there is one if case
makes no difference. -/
def caseVariants (n : Nat) : List Nat :=
  (foldOrbits.find? (·.contains n)).getD [n]

end SchemaSieve.Text.Unicode
