/-!
# JSON text

Values written over several lines, two spaces deeper for each level. Of texts only quotes,
backslashes and control characters are escaped.
-/

namespace SchemaSieve.Text

/-- A value to be written as JSON. -/
inductive Json where
  | null
  | number (n : Nat)
  | text (s : String)
  | list (items : List Json)
  | mapping (entries : List (String × Json))

namespace Json

/-- The text if there is one. -/
def optional : Option String → Json
  | none => null
  | some s => text s

private def hexDigit (n : Nat) : Char := Nat.digitChar n

/-- What a character is written as. -/
def escaped (c : Char) : List Char :=
  match c with
  | '"' => ['\\', '"']
  | '\\' => ['\\', '\\']
  | '\x08' => ['\\', 'b']
  | '\x0c' => ['\\', 'f']
  | '\n' => ['\\', 'n']
  | '\r' => ['\\', 'r']
  | '\t' => ['\\', 't']
  | c =>
    if c.toNat < 0x20 then
      ['\\', 'u', '0', '0', hexDigit (c.toNat / 16), hexDigit (c.toNat % 16)]
    else [c]

def quoted (s : String) : List Char := '"' :: s.toList.flatMap escaped ++ ['"']

/-- The start of a line. -/
def newLine (indent : Nat) : List Char := '\n' :: List.replicate (2 * indent) ' '

mutual

/-- A value whose first line is indented already. -/
def write (indent : Nat) : Json → List Char
  | null => ['n', 'u', 'l', 'l']
  | number n => (toString n).toList
  | text s => quoted s
  | list [] => ['[', ']']
  | list items => '[' :: writeItems (indent + 1) items ++ newLine indent ++ [']']
  | mapping [] => ['\x7b', '\x7d']
  | mapping entries => '\x7b' :: writeEntries (indent + 1) entries ++ newLine indent ++ ['\x7d']

def writeItems (indent : Nat) : List Json → List Char
  | [] => []
  | [item] => newLine indent ++ write indent item
  | item :: rest => newLine indent ++ write indent item ++ ',' :: writeItems indent rest

def writeEntries (indent : Nat) : List (String × Json) → List Char
  | [] => []
  | [(key, value)] => newLine indent ++ quoted key ++ ':' :: ' ' :: write indent value
  | (key, value) :: rest =>
    newLine indent ++ quoted key ++ ':' :: ' ' :: write indent value ++ ',' ::
      writeEntries indent rest

end

/-- The text of a value. -/
def render (value : Json) : String := String.ofList (write 0 value)

end Json

end SchemaSieve.Text
