import SchemaSieve.Text.Unicode.Query

/-!
# Quoted texts

A text in double quotes, as messages show it: quotes, backslashes and characters that cannot be seen
are escaped.
-/

namespace SchemaSieve.Text.Quoted

/-- The digits of a number in hexadecimal. -/
def hex (n : Nat) : List Char := Nat.toDigits 16 n

/-- The characters that show nothing, or nothing on their own. -/
def invisible : CharSet :=
  .ofRanges ((["Cc", "Cf", "Cn", "Co", "Zl", "Zp", "Zs"].filterMap Unicode.category?).flatMap
    CharSet.ranges ++ Unicode.graphemeExtendSet.ranges)

/-- Whether a character can be seen. -/
def isVisible (c : Char) : Bool := c == ' ' || !invisible.contains c.toNat

/-- What a character is written as. -/
def escaped (c : Char) : List Char :=
  match c with
  | '\x00' => ['\\', '0']
  | '\t' => ['\\', 't']
  | '\n' => ['\\', 'n']
  | '\r' => ['\\', 'r']
  | '"' => ['\\', '"']
  | '\\' => ['\\', '\\']
  | c =>
    if c.toNat < 0x7F && 0x20 ≤ c.toNat then [c]
    else if isVisible c then [c]
    else '\\' :: 'u' :: '\x7b' :: hex c.toNat ++ ['\x7d']

/-- A text in quotes. -/
def quote (s : String) : String := String.ofList ('"' :: s.toList.flatMap escaped ++ ['"'])

/-- The path of a file in quotes. Here apostrophes are escaped as well. -/
def quotePath (path : String) : String :=
  let escaped (c : Char) : List Char := if c == '\'' then ['\\', '\''] else escaped c
  String.ofList ('"' :: path.toList.flatMap escaped ++ ['"'])

end SchemaSieve.Text.Quoted
