import SchemaSieve.Yaml.Token

/-!
# Reading scalars

The text of plain, quoted and block scalars. Line ends inside a plain or a quoted scalar are
folded: one line end is a space, and of several the first is dropped (`Gap.text`).
-/

namespace SchemaSieve.Yaml

/-! ## Gaps between words -/

/-- What stands between two words of a scalar: blanks on one line, or line ends, whose first may be
missing if a backslash took it. The later parts are kept in reverse. -/
inductive Gap where
  | blanks (cs : List Char)
  | breaks (first : Option Char) (later : List Char)

namespace Gap

def empty : Gap := blanks []

def isEmpty : Gap → Bool
  | blanks cs => cs.isEmpty
  | breaks .. => false

def hasBreak : Gap → Bool
  | blanks _ => false
  | breaks .. => true

/-- Blanks around line ends do not count. -/
def addBlank (c : Char) : Gap → Gap
  | blanks cs => blanks (c :: cs)
  | breaks first later => breaks first later

def addBreak (c : Char) : Gap → Gap
  | blanks _ => breaks (some c) []
  | breaks first later => breaks first (c :: later)

/-- What a gap stands for. -/
def text : Gap → List Char
  | blanks cs => cs.reverse
  | breaks none later => later.reverse
  | breaks (some '\n') [] => [' ']
  | breaks (some '\n') later => later.reverse
  | breaks (some c) later => c :: later.reverse

end Gap

/-- Characters in reverse, continued by a gap. -/
private def joined (text : List Char) (gap : Gap) : List Char := gap.text.reverse ++ text

/-! ## Plain scalars -/

/-- Whether a plain scalar ends before the next character. -/
def endsPlain (inFlow : Bool) (cells : List Cell) : Bool :=
  (ahead cells == ':' && endsWord (aheadBy 1 cells)) || (inFlow && isFlowSign (ahead cells))

/-- Whether a plain scalar cannot go on behind a gap: in a block it has to reach the margin. -/
def stopsPlain (inFlow : Bool) (margin : Nat) (cells : List Cell) : Bool :=
  (!inFlow && (here cells).column < margin) || atDocumentEdge cells || ahead cells == '#'

/-- Reads on in a plain scalar; the text so far is in reverse. The answer tells also whether a line
end was passed behind the scalar. -/
def readPlain (inFlow : Bool) (margin : Nat) (text : List Char) (gap : Gap) :
    List Cell → Except SyntaxFault (List Char × Bool × List Cell)
  | [] => .ok (text.reverse, gap.hasBreak, [])
  | c :: rest =>
    if isBlank c.char then
      if gap.hasBreak && c.mark.column < margin && c.char == '\t' then .error ⟨.tabIndent, c.mark⟩
      else readPlain inFlow margin text (gap.addBlank c.char) rest
    else if isBreak c.char then readPlain inFlow margin text (gap.addBreak c.char) rest
    else if c.char == '\x00' || (!gap.isEmpty && stopsPlain inFlow margin (c :: rest)) then
      .ok (text.reverse, gap.hasBreak, c :: rest)
    else if inFlow && c.char == ':' && (isFlowSign (ahead rest) || ahead rest == '?') then
      .error ⟨.ambiguousColon, c.mark⟩
    else if endsPlain inFlow (c :: rest) then .ok (text.reverse, gap.hasBreak, c :: rest)
    else readPlain inFlow margin (c.char :: joined text gap) .empty rest

/-! ## Quoted scalars -/

/-- The character that a letter behind a backslash stands for. -/
def simpleEscape? : Char → Option Char
  | '0' => some '\x00'
  | 'a' => some '\x07'
  | 'b' => some '\x08'
  | 't' | '\t' => some '\t'
  | 'n' => some '\n'
  | 'v' => some '\x0b'
  | 'f' => some '\x0c'
  | 'r' => some '\r'
  | 'e' => some '\x1b'
  | ' ' => some ' '
  | '"' => some '"'
  | '/' => some '/'
  | '\\' => some '\\'
  | 'N' => some '\u0085'
  | '_' => some '\u00a0'
  | 'L' => some '\u2028'
  | 'P' => some '\u2029'
  | _ => none

/-- How many hexadecimal digits follow a letter behind a backslash. -/
def codeLength : Char → Nat
  | 'x' => 2
  | 'u' => 4
  | 'U' => 8
  | _ => 0

def hexDigit? (c : Char) : Option Nat :=
  if c.isDigit then some (c.toNat - 48)
  else if 'a' ≤ c ∧ c ≤ 'f' then some (c.toNat - 87)
  else if 'A' ≤ c ∧ c ≤ 'F' then some (c.toNat - 55)
  else none

/-- The character with a code in hexadecimal. -/
def charOfCode? (digits : List Char) : Option Char := do
  let n ← digits.foldlM (fun n c => (hexDigit? c).map (n * 16 + ·)) 0
  if n.isValidChar then some (Char.ofNat n) else none

/-- The character that an escape behind a backslash stands for, and what follows it. -/
def readEscape (cells : List Cell) : Except SyntaxFault (Char × List Cell) :=
  match simpleEscape? (ahead cells) with
  | some c => .ok (c, cells.drop 1)
  | none =>
    let n := codeLength (ahead cells)
    if n = 0 then failAt .badEscape cells
    else
      match charOfCode? (((cells.drop 1).take n).map Cell.char) with
      | some c => .ok (c, cells.drop (n + 1))
      | none => failAt .badEscape cells

/-- Reads on in a quoted scalar, for at most `fuel` steps; the text so far is in reverse. -/
def readQuoted (quote : Char) : Nat → List Char → Gap → List Cell →
    Except SyntaxFault (List Char × List Cell)
  | 0, _, _, cells => failAt .openQuote cells
  | _ + 1, _, _, [] => failAt .openQuote []
  | fuel + 1, text, gap, c :: rest =>
    if isBlank c.char then readQuoted quote fuel text (gap.addBlank c.char) rest
    else if isBreak c.char then readQuoted quote fuel text (gap.addBreak c.char) rest
    else if c.char == '\x00' || atDocumentEdge (c :: rest) then .error ⟨.openQuote, c.mark⟩
    else if c.char == quote then
      if quote == '\'' && ahead rest == quote then
        readQuoted quote fuel (quote :: joined text gap) .empty (rest.drop 1)
      else .ok ((joined text gap).reverse, rest)
    else if quote == '"' && c.char == '\\' then
      if isBreak (ahead rest) then
        readQuoted quote fuel (joined text gap) (.breaks none []) (rest.drop 1)
      else
        match readEscape rest with
        | .ok (x, rest) => readQuoted quote fuel (x :: joined text gap) .empty rest
        | .error e => .error e
    else readQuoted quote fuel (c.char :: joined text gap) .empty rest

/-! ## Block scalars -/

/-- What happens to the line ends at the end of a block. -/
inductive Chomping where
  | clip
  | strip
  | keep
  deriving DecidableEq

/-- The header of a block: how far its lines are indented, if it says so, and its chomping. -/
structure BlockHeader where
  indent : Option Nat
  chomping : Chomping

private def chomping? : Char → Option Chomping
  | '+' => some .keep
  | '-' => some .strip
  | _ => none

private def indent? (c : Char) : Option Nat := if c.isDigit then some (c.toNat - 48) else none

/-- The header behind the sign of a block; its two parts stand in any order. -/
def readBlockHeader (cells : List Cell) : Except SyntaxFault (BlockHeader × List Cell) :=
  let (chomping, indent, rest) :=
    match chomping? (ahead cells), indent? (ahead cells) with
    | some c, _ =>
      match indent? (aheadBy 1 cells) with
      | some n => (some c, some n, cells.drop 2)
      | none => (some c, none, cells.drop 1)
    | none, some n =>
      match chomping? (aheadBy 1 cells) with
      | some c => (some c, some n, cells.drop 2)
      | none => (none, some n, cells.drop 1)
    | none, none => (none, none, cells)
  if indent = some 0 then failAt .badBlockHeader cells
  else
    let rest := (spanCells isBlank rest).2
    let rest := if ahead rest == '#' then (spanCells (fun c => !endsLine c) rest).2 else rest
    if isBreak (ahead rest) then .ok (⟨indent, chomping.getD .clip⟩, rest.drop 1)
    else if ahead rest == '\x00' then .ok (⟨indent, chomping.getD .clip⟩, rest)
    else failAt .badBlockHeader rest

/-- Passes the empty lines of a block, and the indentation of the next line, up to the indentation of
the block if that is known. Gives the line ends in reverse and the widest indentation seen. -/
def readBlockBreaks (indent : Option Nat) (widest : Nat) (breaks : List Char) :
    List Cell → Except SyntaxFault (List Char × Nat × List Cell)
  | [] => .ok (breaks, widest, [])
  | c :: rest =>
    let isInside := indent.all fun n => c.mark.column < n
    if isInside && c.char == ' ' then readBlockBreaks indent widest breaks rest
    else
      let widest := max widest c.mark.column
      if isInside && c.char == '\t' then .error ⟨.tabIndent, c.mark⟩
      else if isBreak c.char then readBlockBreaks indent widest (c.char :: breaks) rest
      else .ok (breaks, widest, c :: rest)

/-- A block that is being read: its text in reverse, the line end of its last line, the line ends of
the empty lines behind that, in reverse, and whether the last line started with a blank. -/
structure BlockText where
  text : List Char
  lineEnd : List Char
  emptyLines : List Char
  wasIndented : Bool

namespace BlockText

/-- The text up to the next line. In a folded block a line end between two lines that do not start
with a blank is a space, or nothing if empty lines follow. -/
def upToLine (b : BlockText) (literal isIndented : Bool) : List Char :=
  if !literal && b.lineEnd == ['\n'] && !b.wasIndented && !isIndented then
    if b.emptyLines.isEmpty then ' ' :: b.text else b.emptyLines ++ b.text
  else b.emptyLines ++ b.lineEnd ++ b.text

/-- The whole text. -/
def chomped (b : BlockText) : Chomping → List Char
  | .strip => b.text.reverse
  | .clip => (b.lineEnd ++ b.text).reverse
  | .keep => (b.emptyLines ++ b.lineEnd ++ b.text).reverse

end BlockText

/-- Reads the lines of a block that are indented as far as the block, for at most `fuel` lines. -/
def readBlockLines (literal : Bool) (indent : Nat) : Nat → BlockText → List Cell →
    Except SyntaxFault (BlockText × List Cell)
  | 0, b, cells => .ok (b, cells)
  | fuel + 1, b, cells => do
    if (here cells).column != indent || ahead cells == '\x00' then return (b, cells)
    let isIndented := isBlank (ahead cells)
    let before := b.upToLine literal isIndented
    let (line, rest) := spanCells (fun c => !endsLine c) cells
    let lineEnd := if isBreak (ahead rest) then [ahead rest] else []
    let (emptyLines, _, rest) ← readBlockBreaks (some indent) 0 [] (rest.drop lineEnd.length)
    readBlockLines literal indent fuel
      ⟨line.reverse ++ before, lineEnd, emptyLines, isIndented⟩ rest

/-- Reads a block behind its sign. Without a number in its header its indentation is that of its
first line, and at least the margin. -/
def readBlock (literal : Bool) (margin : Nat) (cells : List Cell) :
    Except SyntaxFault (List Char × List Cell) := do
  let (header, rest) ← readBlockHeader cells
  let known := header.indent.map fun n => if margin = 0 then n else margin - 1 + n
  let (breaks, widest, rest) ← readBlockBreaks known 0 [] rest
  let indent := known.getD (max widest (max margin 1))
  let (b, rest) ← readBlockLines literal indent rest.length ⟨[], [], breaks, false⟩ rest
  return (b.chomped header.chomping, rest)

end SchemaSieve.Yaml
