import SchemaSieve.Yaml.Character
import SchemaSieve.Yaml.Plain

/-!
# Writing YAML

Values made of texts, lists and mappings are written in block form. A text is written plain if it
would be read back as the same text, else in the mildest form that keeps it: as a literal block if
it has line feeds, in single quotes, or in double quotes with escapes.
-/

namespace SchemaSieve.Yaml

/-- A value to be written. -/
inductive Value where
  | text (s : String)
  | list (items : List Value)
  | mapping (entries : List (String × Value))

/-! ## Characters -/

/-- The characters that can stand in a document as they are. -/
def isPrintable (c : Char) : Bool :=
  let n := c.toNat
  n == 0xA || (0x20 ≤ n && n ≤ 0x7E) || (0xA0 ≤ n && n ≤ 0xFFFD && n != 0xFEFF) || 0x10000 ≤ n

/-- Whether the next character, if there is one, ends a word. -/
def endsWordNext (c : Option Char) : Bool := c.all endsWord

/-! ## Which forms a text can take -/

/-- The signs that give a text another meaning when it starts with them. -/
def isLeadingIndicator (c : Char) : Bool :=
  ['#', ',', '[', ']', '\x7b', '\x7d', '&', '*', '!', '|', '>', '\'', '"', '%', '@', '`'].contains c

/-- Whether a text, read plain, would end early or be taken for something else. `previous` is the
character before. -/
def hasIndicator : Option Char → List Char → Bool
  | _, [] => false
  | previous, c :: rest =>
    let here :=
      match previous with
      | none => isLeadingIndicator c || ((c == '?' || c == ':' || c == '-') && endsWordNext rest.head?)
      | some p => (c == ':' && endsWordNext rest.head?) || (c == '#' && endsWord p)
    here || hasIndicator (some c) rest

/-- Whether two neighbours satisfy a relation somewhere in a text. -/
def hasNeighbours (r : Char → Char → Bool) : List Char → Bool
  | c :: d :: rest => r c d || hasNeighbours r (d :: rest)
  | _ => false

/-- The forms of a text. -/
inductive Form where
  | plain
  | single
  | double
  | literal
  deriving DecidableEq

/-- Whether a text has a character that only an escape can write, or a line end behind a space. -/
def needsEscape (cs : List Char) : Bool :=
  cs.any (fun c => !isPrintable c) || hasNeighbours (fun c d => c == ' ' && isBreak d) cs

/-- Whether a text can be written plain in a block. -/
def allowsPlain (cs : List Char) : Bool :=
  !needsEscape cs && !cs.any isBreak && cs.head? != some ' ' && cs.getLast? != some ' ' &&
    !(['-', '-', '-'].isPrefixOf cs) && !(['.', '.', '.'].isPrefixOf cs) && !hasIndicator none cs

/-- Whether a text can be written in single quotes. -/
def allowsSingle (cs : List Char) : Bool :=
  !needsEscape cs && !hasNeighbours (fun c d => isBreak c && d == ' ') cs

/-- Whether a text can be written as a block. -/
def allowsLiteral (cs : List Char) : Bool := !needsEscape cs && cs.getLast? != some ' '

/-- The form in which a text is written. -/
def formOf (s : String) : Form :=
  let cs := s.toList
  let quoted := if allowsSingle cs then Form.single else .double
  if cs.contains '\n' then if allowsLiteral cs then .literal else .double
  else
    match Plain.of s with
    | .text => if Plain.isPaddedDigits cs then quoted else if allowsPlain cs then .plain else quoted
    | _ => quoted

/-! ## Writing a text -/

def spaces (n : Nat) : List Char := List.replicate n ' '

/-- A text that may hold line ends. Behind a line end the next character that is none is
indented. -/
def indented (indent : Nat) : Bool → List Char → List Char
  | _, [] => []
  | fresh, c :: rest =>
    if isBreak c then c :: indented indent true rest
    else (if fresh then spaces indent else []) ++ c :: indented indent false rest

/-- The inside of single quotes. -/
def singleQuoted (indent : Nat) (cs : List Char) : List Char :=
  let doubled := cs.flatMap fun c => if c == '\'' then ['\'', '\''] else [c]
  indented indent false doubled ++
    if cs.getLast?.any isBreak then spaces indent else []

/-- The last `width` digits of a number in hexadecimal. -/
def hexDigits : Nat → Nat → List Char
  | 0, _ => []
  | width + 1, n => hexDigits width (n / 16) ++ [Nat.digitChar (n % 16)].map Char.toUpper

/-- The escape of a character. -/
def escaped (c : Char) : List Char :=
  match c with
  | '\x00' => ['0']
  | '\x07' => ['a']
  | '\x08' => ['b']
  | '\t' => ['t']
  | '\n' => ['n']
  | '\x0b' => ['v']
  | '\x0c' => ['f']
  | '\r' => ['r']
  | '\x1b' => ['e']
  | '"' => ['"']
  | '\\' => ['\\']
  | '\u0085' => ['N']
  | '\u00a0' => ['_']
  | '\u2028' => ['L']
  | '\u2029' => ['P']
  | c =>
    if c.toNat ≤ 0xFF then 'x' :: hexDigits 2 c.toNat
    else if c.toNat ≤ 0xFFFF then 'u' :: hexDigits 4 c.toNat
    else 'U' :: hexDigits 8 c.toNat

/-- The inside of double quotes. -/
def doubleQuoted (cs : List Char) : List Char :=
  cs.flatMap fun c =>
    if isPrintable c && !isBreak c && c != '"' && c != '\\' then [c] else '\\' :: escaped c

/-- What a block says about its first and its last line: the indentation if the text starts with a
blank, and whether the line ends at its end are kept or there is none. -/
def blockHints (cs : List Char) : List Char :=
  let lead := if cs.head?.any fun c => c == ' ' || isBreak c then ['2'] else []
  let trail :=
    match cs.reverse with
    | [] => ['-']
    | [c] => if isBreak c then ['+'] else ['-']
    | c :: d :: _ => if !isBreak c then ['-'] else if isBreak d then ['+'] else []
  lead ++ trail

/-- A text behind a sign and a space, as it stands in a block whose inner lines are indented. It ends
its line. -/
def writeText (indent : Nat) (s : String) : List Char :=
  let cs := s.toList
  match formOf s with
  | .plain => ' ' :: cs ++ ['\n']
  | .single => ' ' :: '\'' :: singleQuoted indent cs ++ ['\'', '\n']
  | .double => ' ' :: '"' :: doubleQuoted cs ++ ['"', '\n']
  | .literal =>
    ' ' :: '|' :: blockHints cs ++ '\n' :: indented indent true cs ++
      if cs.getLast?.any isBreak then [] else ['\n']

/-! ## Writing values -/

mutual

/-- A value behind the colon of a key. The items of a list stand as far out as the key. -/
def writeEntry (indent : Nat) : Value → List Char
  | .text s => writeText (indent + 2) s
  | .list [] => [' ', '[', ']', '\n']
  | .list items => '\n' :: writeItems indent (spaces indent) items
  | .mapping [] => [' ', '\x7b', '\x7d', '\n']
  | .mapping entries => '\n' :: writeEntries (indent + 2) (spaces (indent + 2)) entries

/-- A value behind the dash of an item. -/
def writeItem (indent : Nat) : Value → List Char
  | .text s => writeText (indent + 2) s
  | .list [] => [' ', '[', ']', '\n']
  | .list items => writeItems (indent + 2) [' '] items
  | .mapping [] => [' ', '\x7b', '\x7d', '\n']
  | .mapping entries => writeEntries (indent + 2) [' '] entries

/-- The items of a list; what is written before the first dash may differ from the indentation of
the others. -/
def writeItems (indent : Nat) (first : List Char) : List Value → List Char
  | [] => []
  | item :: items =>
    first ++ '-' :: writeItem indent item ++ writeItems indent (spaces indent) items

/-- The entries of a mapping; what is written before the first key may differ from the indentation
of the others. -/
def writeEntries (indent : Nat) (first : List Char) : List (String × Value) → List Char
  | [] => []
  | (key, value) :: entries =>
    first ++ key.toList ++ ':' :: writeEntry indent value ++
      writeEntries indent (spaces indent) entries

end

/-- The document of a value. -/
def Value.render : Value → String
  | .text s => String.ofList ((writeText 0 s).drop 1)
  | .list [] => "[]\n"
  | .list items => String.ofList (writeItems 0 [] items)
  | .mapping [] => "\x7b\x7d\n"
  | .mapping entries => String.ofList (writeEntries 0 [] entries)

end SchemaSieve.Yaml
