import SchemaSieve.Text.Blank

/-!
# Reading a pattern

A `Cursor` is the rest of a pattern together with the position it starts at. In verbose mode white
space and comments between the parts of a pattern are skipped.
-/

namespace SchemaSieve.Regex

/-- A place between two characters of a pattern. Lines and columns are counted from one. -/
structure Position where
  offset : Nat
  line : Nat
  column : Nat
  deriving DecidableEq

/-- A stretch of a pattern. -/
structure Span where
  start : Position
  stop : Position
  deriving DecidableEq

/-- The place after a character. -/
def Position.after (p : Position) (c : Char) : Position :=
  if c = '\n' then ⟨p.offset + 1, p.line + 1, 1⟩ else ⟨p.offset + 1, p.line, p.column + 1⟩

/-- The rest of a pattern and where it starts. -/
structure Cursor where
  pos : Position
  rest : List Char

namespace Cursor

def ofList (cs : List Char) : Cursor := ⟨⟨0, 1, 1⟩, cs⟩

def atEnd (c : Cursor) : Bool := c.rest.isEmpty

def peek? (c : Cursor) : Option Char := c.rest.head?

/-- Whether the next character is `x`. -/
def sees (c : Cursor) (x : Char) : Bool := c.peek? == some x

/-- Past the next character. -/
def next : Cursor → Cursor
  | ⟨p, []⟩ => ⟨p, []⟩
  | ⟨p, c :: rest⟩ => ⟨p.after c, rest⟩

/-- The empty stretch at a cursor. -/
def here (c : Cursor) : Span := ⟨c.pos, c.pos⟩

/-- The stretch of the next character. -/
def charSpan (c : Cursor) : Span := ⟨c.pos, c.next.pos⟩

/-- The stretch from a position up to a cursor. -/
def since (c : Cursor) (start : Position) : Span := ⟨start, c.pos⟩

/-- Skips white space and comments; a comment starts with `#` and ends with its line. -/
def skipBlanks (inComment : Bool) (p : Position) : List Char → Cursor
  | [] => ⟨p, []⟩
  | c :: rest =>
    if inComment then skipBlanks (c != '\n') (p.after c) rest
    else if Text.isWhiteSpace c then skipBlanks false (p.after c) rest
    else if c = '#' then skipBlanks true (p.after c) rest
    else ⟨p, c :: rest⟩

/-- In verbose mode, past white space and comments. -/
def skipSpace (verbose : Bool) (c : Cursor) : Cursor :=
  if verbose then skipBlanks false c.pos c.rest else c

/-- Past the next character and, in verbose mode, past the space after it. -/
def step (verbose : Bool) (c : Cursor) : Cursor := c.next.skipSpace verbose

/-- Past a given text, if it comes next. -/
def past? (c : Cursor) : List Char → Option Cursor
  | [] => some c
  | x :: xs => if c.sees x then c.next.past? xs else none

/-- The character after the next one, where white space does not count in verbose mode. The
character after a `#` is taken as it comes. -/
def peekSecond? (verbose : Bool) (c : Cursor) : Option Char :=
  let after := c.rest.drop 1
  if verbose then
    let candidate :=
      match after.dropWhile Text.isWhiteSpace with
      | '#' :: rest => (rest.dropWhile Text.isWhiteSpace).head?
      | rest => rest.head?
    candidate <|> after.head?
  else after.head?

/-- At most `fuel` characters with a property, with the space between them skipped. -/
def takeRunWithin (verbose : Bool) (p : Char → Bool) : Nat → Cursor → List Char × Cursor
  | 0, c => ([], c)
  | fuel + 1, c =>
    match c.peek? with
    | some x =>
      if p x then
        let (xs, c) := takeRunWithin verbose p fuel (c.step verbose)
        (x :: xs, c)
      else ([], c)
    | none => ([], c)

/-- The longest run of characters with a property, with the space between them skipped. -/
def takeRun (verbose : Bool) (p : Char → Bool) (c : Cursor) : List Char × Cursor :=
  takeRunWithin verbose p c.rest.length c

end Cursor

end SchemaSieve.Regex
