import SchemaSieve.Text.Quoted
import SchemaSieve.Yaml.Document
import SchemaSieve.Yaml.Plain

/-!
# Reading values from a document

Readers take a node apart and say where a document holds something else than expected. A fault is
placed at the innermost node that was being read as a whole: its path from the outermost node and
its mark. Aliases are followed, but only so many times (`Reading.follow`), and lists and mappings are
read only down to a depth of `Site.deepest`.
-/

namespace SchemaSieve.Yaml

/-! ## Paths -/

/-- The way to a node: items by number, entries by key. The key of an entry is unknown if it is not
written as a scalar. -/
inductive Path where
  | root
  | item (parent : Path) (index : Nat)
  | entry (parent : Path) (key : String)
  | unknown (parent : Path)
  deriving DecidableEq

namespace Path

def isRoot : Path → Bool
  | root => true
  | _ => false

mutual

/-- A path as messages show it. -/
def text : Path → String
  | root => "."
  | item parent index => s!"{parent.text}[{index}]"
  | entry parent key => parent.lead ++ key
  | unknown parent => parent.lead ++ "?"

/-- What stands before a key. -/
def lead : Path → String
  | root => ""
  | item parent index => s!"{parent.text}[{index}]."
  | entry parent key => parent.lead ++ key ++ "."
  | unknown parent => parent.lead ++ "?."

end

end Path

/-! ## Faults -/

/-- What a node is, whatever was expected. -/
inductive Found where
  | null
  | bool (b : Bool)
  | int (n : Int)
  | float (x : Float)
  | text (s : String)
  | list
  | mapping

/-- What messages call a node. Whole numbers that need more than 64 bits show their type. -/
def Found.describe : Found → String
  | null => "unit value"
  | bool b => s!"boolean `{b}`"
  | int n =>
    if Plain.fitsWord n then s!"integer `{n}`"
    else if n < 0 then s!"integer `{n}` as i128"
    else s!"integer `{n}` as u128"
  | float x => s!"floating point `{Text.Decimal.text x}`"
  | text s => "string " ++ Text.Quoted.quote s
  | list => "sequence"
  | mapping => "map"

/-- Why a node cannot be read as what was expected. -/
inductive Mismatch where
  | wrongType (found : Found) (expected : String)
  | wrongValue (text : String) (expected : String)
  | wrongLength (length : Nat) (expected : String)
  | unknownVariant (name : String) (variants : List String)
  | missingField (name : String)
  | repeatedField (name : String)
  | noVariant (type : String)
  | taggedContent

def Mismatch.message : Mismatch → String
  | wrongType found expected => s!"invalid type: {found.describe}, expected {expected}"
  | wrongValue text expected =>
    "invalid value: string " ++ Text.Quoted.quote text ++ ", expected " ++ expected
  | wrongLength length expected => s!"invalid length {length}, expected {expected}"
  | unknownVariant name variants =>
    s!"unknown variant `{name}`, expected one of " ++
      ", ".intercalate (variants.map fun v => s!"`{v}`")
  | missingField name => s!"missing field `{name}`"
  | repeatedField name => s!"duplicate field `{name}`"
  | noVariant type => s!"data did not match any variant of untagged enum {type}"
  | taggedContent => "untagged and internally tagged enums do not support enum input"

/-- Why a document cannot be read. A mismatch without a place is still to be placed. -/
inductive ReadFault where
  | mismatch (m : Mismatch) (place : Option (Path × Mark))
  | tooDeep (m : Mark)
  | tooManyAliases

/-- Behind a message, where it belongs; the start of a document goes without saying. -/
private def atMark (m : Mark) : String := if m.isOrigin then "" else s!" at {m.text}"

def ReadFault.message : ReadFault → String
  | mismatch m none => m.message
  | mismatch m (some (path, mark)) =>
    (if path.isRoot then "" else path.text ++ ": ") ++ m.message ++ atMark mark
  | tooDeep m => "recursion limit exceeded" ++ atMark m
  | tooManyAliases => "repetition limit exceeded"

/-! ## Readers -/

/-- Reads from a document and counts the aliases that were followed. -/
abbrev Reading := ReaderT Document (StateT Nat (Except ReadFault))

/-- Where a reader is: the path, and how many more lists and mappings may be entered. -/
structure Site where
  path : Path := .root
  depth : Nat := 128

namespace Reading

def fail {α : Type} (m : Mismatch) : Reading α := throw (.mismatch m none)

/-- Places the faults of a reader that have no place yet. -/
def placing {α : Type} (path : Path) (mark : Mark) (r : Reading α) : Reading α :=
  tryCatch r fun
    | .mismatch m none => throw (.mismatch m (some (path, mark)))
    | e => throw e

/-- The node that a node stands for. Aliases may be followed a hundred times as often as the document
is large. -/
def follow (n : Node) : Reading Node := do
  match n with
  | .aliasOf _ anchor =>
    let d ← read
    modify (· + 1)
    if d.size * 100 < (← get) then throw .tooManyAliases
    return (d.anchors.lookup anchor).getD n
  | _ => return n

/-- What a plain scalar is. -/
def ofPlain (text : String) : Found :=
  match Plain.of text with
  | .null => .null
  | .bool b => .bool b
  | .int n => .int n
  | .float x => .float x
  | .text => .text text

/-- What a scalar is. A tag may ask for a certain type; other tags make a text of it, unless they are
the document's own and it is plain. -/
def resolve (tag : Option String) (style : ScalarStyle) (text : String) : Except Mismatch Found :=
  let asked (expected : String) (found : Option Found) : Except Mismatch Found :=
    found.elim (.error (.wrongValue text expected)) .ok
  match tag with
  | none => .ok (if style = .plain then ofPlain text else .text text)
  | some "tag:yaml.org,2002:bool" => asked "a boolean" ((Plain.bool? text).map .bool)
  | some "tag:yaml.org,2002:int" => asked "an integer" ((Plain.int? text.toList).map .int)
  | some "tag:yaml.org,2002:float" => asked "a float" ((Plain.float? text).map .float)
  | some "tag:yaml.org,2002:null" =>
    asked "null" (if Plain.isNull text then some .null else none)
  | some tag => .ok (if tag.startsWith "!" && style = .plain then ofPlain text else .text text)

/-- What a node is. -/
def found : Node → Except Mismatch Found
  | .scalar info style text => resolve info.tag style text
  | .list .. => .ok .list
  | .mapping .. => .ok .mapping
  | .aliasOf .. => .ok .null

/-- Tells what a node is where something else was expected. -/
def mismatched {α : Type} (n : Node) (expected : String) : Reading α :=
  match found n with
  | .ok f => fail (.wrongType f expected)
  | .error e => fail e

/-- A text, as any scalar is one. -/
def text (expected : String) (site : Site) (n : Node) : Reading String := do
  let n ← follow n
  placing site.path n.mark do
    match n with
    | .scalar _ _ text => return text
    | _ => mismatched n expected

/-- A value that may be missing: a plain scalar that is blank or says so. -/
def option {α : Type} (read : Site → Node → Reading α) (site : Site) (n : Node) :
    Reading (Option α) := do
  let n ← follow n
  let isMissing ← match n with
    | .scalar info .plain text =>
      match info.tag with
      | none => pure (text.isEmpty || Plain.isNull text)
      | some "tag:yaml.org,2002:null" =>
        if Plain.isNull text then pure true else fail (.wrongValue text "null")
      | some _ => pure false
    | _ => pure false
  if isMissing then return none else return some (← read site n)

/-- Goes into a list or a mapping. -/
def entering {α : Type} (mark : Mark) (site : Site) (r : Site → Reading α) : Reading α :=
  match site.depth with
  | 0 => throw (.tooDeep mark)
  | depth + 1 => r { site with depth }

/-- Reads items from a number on, onto items in reverse. -/
def items {α : Type} (read : Site → Node → Reading α) (site : Site) :
    Nat → List α → List Node → Reading (List α)
  | _, done, [] => return done.reverse
  | i, done, n :: rest => do
    let x ← read { site with path := .item site.path i } n
    items read site (i + 1) (x :: done) rest

/-- A list; a blank node is an empty one. -/
def list {α : Type} (read : Site → Node → Reading α) (site : Site) (n : Node) :
    Reading (List α) := do
  let n ← follow n
  placing site.path n.mark do
    match n with
    | .list _ ns => entering n.mark site fun site => items read site 0 [] ns
    | _ => if n.isBlank then return [] else mismatched n "a sequence"

/-- The site of the value behind a key. -/
def valueSite (site : Site) : Node → Site
  | .scalar _ _ key => { site with path := .entry site.path key }
  | _ => { site with path := .unknown site.path }

/-- Reads entries in order with a state. -/
def entries {σ : Type} (step : σ → String → Site → Node → Reading σ) (site : Site) :
    σ → List (Node × Node) → Reading σ
  | s, [] => return s
  | s, (k, v) :: rest => do
    let key ← text "field identifier" site k
    let s ← step s key (valueSite site k) v
    entries step site s rest

/-- A mapping, read entry by entry with a state; a blank node is an empty one. -/
def mapping {σ α : Type} (expected : String) (start : σ)
    (step : σ → String → Site → Node → Reading σ) (finish : σ → Except Mismatch α) (site : Site)
    (n : Node) : Reading α := do
  let n ← follow n
  placing site.path n.mark do
    let s ← match n with
      | .mapping _ es => entering n.mark site fun site => entries step site start es
      | _ => if n.isBlank then pure start else mismatched n expected
    match finish s with
    | .ok x => return x
    | .error m => fail m

/-- Reads a field that has no value yet. -/
def once {α β : Type} (old : Option β) (name : String) (r : Reading α) : Reading (Option α) := do
  if old.isSome then fail (.repeatedField name) else return some (← r)

/-- The tag of a node without its first sign, if that is an exclamation mark. -/
def variant? (n : Node) : Option String :=
  n.info.tag.bind fun tag =>
    match tag.toList with
    | '!' :: rest => some (String.ofList rest)
    | _ => none

/-- A name out of some, written as a scalar or as a tag with nothing behind it. -/
def name {α : Type} (names : List String) (ofName? : String → Option α) (site : Site) (n : Node) :
    Reading α := do
  let n ← follow n
  let known (s : String) : Reading α :=
    (ofName? s).elim (fail (.unknownVariant s names)) pure
  placing site.path n.mark do
    match variant? n with
    | some s =>
      let x ← known s
      match n with
      | .scalar _ .plain text =>
        if text.isEmpty || Plain.isNull text then return x else fail (.wrongValue text "null")
      | .scalar _ _ text => fail (.wrongValue text "null")
      | _ => mismatched n "unit"
    | none =>
      match n with
      | .scalar _ _ text => known text
      | _ => mismatched n "a YAML tag starting with '!'"

end Reading

/-! ## Documents -/

/-- Why a text cannot be read: it is no document, or the document holds something else. -/
inductive TextFault where
  | syntaxFault (f : SyntaxFault)
  | readFault (f : ReadFault)

def TextFault.message : TextFault → String
  | syntaxFault f => f.message
  | readFault f => f.message

/-- Reads the outermost node of a document. -/
def Document.read {α : Type} (d : Document) (r : Site → Node → Reading α) : Except ReadFault α :=
  ((r {} d.root).run d |>.run 0).map (·.1)

/-- Reads a text. -/
def readText {α : Type} (r : Site → Node → Reading α) (text : String) : Except TextFault α :=
  match Document.parse text with
  | .ok d => (d.read r).mapError .readFault
  | .error f => .error (.syntaxFault f)

end SchemaSieve.Yaml
