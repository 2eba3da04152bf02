/-!
# Characters of a document

The classes of characters that the syntax of documents speaks about. The character NUL stands for
the end of a document, which holds none.
-/

namespace SchemaSieve.Yaml

/-- Line ends. -/
def isBreak (c : Char) : Bool :=
  c == '\n' || c == '\r' || c == '\u0085' || c == '\u2028' || c == '\u2029'

/-- Spaces and tabs. -/
def isBlank (c : Char) : Bool := c == ' ' || c == '\t'

/-- Line ends and the end of the document. -/
def endsLine (c : Char) : Bool := isBreak c || c == '\x00'

/-- Blanks, line ends and the end of the document. -/
def endsWord (c : Char) : Bool := isBlank c || endsLine c

/-- The characters of anchors, handles of tags and names of directives: ASCII letters and digits,
the underscore and the dash. -/
def isNameChar (c : Char) : Bool := c.isAlphanum || c == '_' || c == '-'

/-- The signs that end a plain scalar inside brackets. -/
def isFlowSign (c : Char) : Bool := [',', '[', ']', '\x7b', '\x7d'].contains c

/-- The characters that a document may hold. -/
def isAllowed (c : Char) : Bool :=
  let n := c.toNat
  n == 0x9 || n == 0xA || n == 0xD || (0x20 ≤ n && n ≤ 0x7E) || n == 0x85 ||
    (0xA0 ≤ n && n ≤ 0xFFFD) || 0x10000 ≤ n

end SchemaSieve.Yaml
