import SchemaSieve.Yaml.Reading

/-!
# Data without an expected type

What a node holds when its reader does not know yet what to expect: plain scalars become what they
look like. Tags of the document's own have no place in it.
-/

namespace SchemaSieve.Yaml

/-- The data of a node. -/
inductive Datum where
  | null
  | bool (b : Bool)
  | int (n : Int)
  | float (x : Float)
  | text (s : String)
  | list (items : List Datum)
  | mapping (entries : List (Datum × Datum))

namespace Datum

/-- What messages call it. -/
def found : Datum → Found
  | null => .null
  | bool b => .bool b
  | int n => .int n
  | float x => .float x
  | text s => .text s
  | list _ => .list
  | mapping _ => .mapping

/-- The data of a scalar. Whole numbers have to fit into 64 bits. -/
def ofFound : Found → Except Mismatch Datum
  | .null => .ok null
  | .bool b => .ok (bool b)
  | .int n =>
    if Plain.fitsWord n then .ok (int n) else .error (.wrongType (.int n) "any value")
  | .float x => .ok (float x)
  | .text s => .ok (text s)
  | .list => .ok (list [])
  | .mapping => .ok (mapping [])

/-- Reads the entries of a mapping in order, onto entries in reverse. -/
def readEntries (read : Site → Node → Reading Datum) (site : Site) :
    List (Datum × Datum) → List (Node × Node) → Reading (List (Datum × Datum))
  | done, [] => return done.reverse
  | done, (k, v) :: rest => do
    let key ← read site k
    let value ← read (Reading.valueSite site k) v
    readEntries read site ((key, value) :: done) rest

/-- Reads the data of a node, and of the nodes in it with a reader that is missing where lists and
mappings go too deep. -/
def readNode (inner : Option (Site → Node → Reading Datum)) (site : Site) (n : Node) :
    Reading Datum := do
  let n ← Reading.follow n
  Reading.placing site.path n.mark do
    if (Reading.variant? n).isSome then Reading.fail .taggedContent
    else
      match n, inner with
      | .list info _, none | .mapping info _, none => throw (.tooDeep info.mark)
      | .list _ ns, some read => return list (← Reading.items read site 0 [] ns)
      | .mapping _ es, some read => return mapping (← readEntries read site [] es)
      | n, _ =>
        match (Reading.found n).bind ofFound with
        | .ok d => return d
        | .error m => Reading.fail m

/-- Reads the data of a node into at most `depth` nested lists and mappings. -/
def readWithin : Nat → Site → Node → Reading Datum
  | 0 => readNode none
  | depth + 1 => readNode (some (readWithin depth))

/-- Reads the data of a node. -/
def read (site : Site) (n : Node) : Reading Datum := readWithin site.depth site n

/-! ## Taking data apart -/

def text? (expected : String) : Datum → Except Mismatch String
  | text s => .ok s
  | d => .error (.wrongType d.found expected)

def list? : Datum → Except Mismatch (List Datum)
  | list items => .ok items
  | d => .error (.wrongType d.found "a sequence")

/-- A list of texts. -/
def texts? (d : Datum) : Except Mismatch (List String) := do
  (← d.list?).mapM (text? "a string")

end Datum

end SchemaSieve.Yaml
