import SchemaSieve.Yaml.Character

/-!
# Places in a document

The text of a document as a list of `Cell`s, each a character with the place it stands at. A line
end of two characters is one cell, and the last cell is the NUL that stands for the end.
-/

namespace SchemaSieve.Yaml

/-- A place in a document: how many characters stand before it, and its line and column, counted
from zero. -/
structure Mark where
  index : Nat := 0
  line : Nat := 0
  column : Nat := 0
  deriving DecidableEq

namespace Mark

/-- The place behind a character that ends no line. -/
def right (m : Mark) : Mark := ⟨m.index + 1, m.line, m.column + 1⟩

/-- The start of the next line, behind a line end of some characters. -/
def down (m : Mark) (width : Nat) : Mark := ⟨m.index + width, m.line + 1, 0⟩

/-- Whether a place is the start of the first line. -/
def isOrigin (m : Mark) : Bool := m.line == 0 && m.column == 0

/-- A place as messages show it, counted from one. -/
def text (m : Mark) : String := s!"line {m.line + 1} column {m.column + 1}"

end Mark

/-- A character and where it stands. -/
structure Cell where
  char : Char
  mark : Mark
  deriving DecidableEq

/-- The next character. -/
def ahead : List Cell → Char
  | [] => '\x00'
  | c :: _ => c.char

/-- The character behind some others. -/
def aheadBy (n : Nat) (cells : List Cell) : Char := ahead (cells.drop n)

/-- Where the next character stands. -/
def here : List Cell → Mark
  | [] => {}
  | c :: _ => c.mark

/-- The longest run of characters with a property, and what is behind it. -/
def spanCells (p : Char → Bool) (cells : List Cell) : List Char × List Cell :=
  ((cells.takeWhile fun c => p c.char).map Cell.char, cells.dropWhile fun c => p c.char)

/-- The cells of a text that starts at a place, onto cells in reverse. Every line end counts as a line
feed, but the separators of lines and paragraphs stay what they are. -/
def cellsOnto (onto : List Cell) (m : Mark) : List Char → List Cell
  | [] => (⟨'\x00', m⟩ :: onto).reverse
  | '\r' :: '\n' :: rest => cellsOnto (⟨'\n', m⟩ :: onto) (m.down 2) rest
  | c :: rest =>
    if isBreak c then
      let c := if c == '\r' || c == '\u0085' then '\n' else c
      cellsOnto (⟨c, m⟩ :: onto) (m.down 1) rest
    else cellsOnto (⟨c, m⟩ :: onto) m.right rest

/-- The cells of a document. -/
def cellsOf (text : String) : List Cell := cellsOnto [] {} text.toList

/-- Whether the sign of a document's start or end stands at the start of a line. -/
def atDocumentSign (sign : Char) (cells : List Cell) : Bool :=
  (here cells).column == 0 && ahead cells == sign && aheadBy 1 cells == sign &&
    aheadBy 2 cells == sign && endsWord (aheadBy 3 cells)

/-- Whether a document starts or ends here. -/
def atDocumentEdge (cells : List Cell) : Bool :=
  atDocumentSign '-' cells || atDocumentSign '.' cells

end SchemaSieve.Yaml
