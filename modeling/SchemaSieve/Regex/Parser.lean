import SchemaSieve.Regex.Parser.Class
import SchemaSieve.Regex.Parser.Group

/-!
# Parsing patterns

A pattern is read part by part into the branch at hand. The groups and alternations around that
branch wait on a stack; a closing parenthesis, or the end of the pattern, takes them off again.
-/

namespace SchemaSieve.Regex

/-- What waits for the branch being read. -/
inductive Frame where
  | group (span : Span) (items : List FlagItem) (outer : List Syntax) (outerStart : Position)
    (verbose : Bool)
  | alternation (start : Position) (branches : List Syntax)

/-- How far a pattern was read. Parts and branches stand in reverse. -/
structure Parse where
  cur : Cursor
  verbose : Bool := false
  names : GroupNames := []
  frames : List Frame := []
  start : Position
  parts : List Syntax := []

namespace Parse

/-- The branch that was read from some parts. -/
def branch (span : Span) : List Syntax → Syntax
  | [] => .empty span
  | [part] => part
  | parts => .concat span parts.reverse

/-- The branch at hand, up to the cursor. -/
def current (s : Parse) : Syntax := branch (s.cur.since s.start) s.parts

/-- The branch at hand together with the branches before it, and the frames around them. -/
def settle (s : Parse) : Syntax × List Frame :=
  match s.frames with
  | .alternation start branches :: frames =>
    (.alternation (s.cur.since start) (s.current :: branches).reverse, frames)
  | frames => (s.current, frames)

/-- Reads `|`. -/
def alternate (s : Parse) : Parse :=
  let frames :=
    match s.frames with
    | .alternation start branches :: frames => .alternation start (s.current :: branches) :: frames
    | frames => .alternation s.start [s.current] :: frames
  let cur := s.cur.next
  { s with cur, frames, start := cur.pos, parts := [] }

/-- Reads `(` and what belongs to it. -/
def openGroup (s : Parse) : Except Fault Parse := do
  let (opening, names, cur) ← readOpening s.verbose s.names s.cur
  match opening with
  | .flags span items =>
    let verbose := (flagState? .verbose false items).getD s.verbose
    return { s with cur, names, verbose, parts := .flags span items :: s.parts }
  | .group span items =>
    let verbose := (flagState? .verbose false items).getD s.verbose
    return { cur, names, verbose, start := cur.pos, parts := []
             frames := .group span items s.parts s.start s.verbose :: s.frames }

/-- Reads `)`. -/
def closeGroup (s : Parse) : Except Fault Parse :=
  match s.settle with
  | (body, .group span items outer outerStart verbose :: frames) =>
    let cur := s.cur.next
    .ok { s with
      cur, verbose, frames, start := outerStart
      parts := .group ⟨span.start, cur.pos⟩ items body :: outer }
  | _ => .error ⟨.groupUnopened, s.cur.charSpan, none⟩

/-- The part that a repetition repeats, and the parts before it. -/
def repeated (s : Parse) : Except Fault (Syntax × List Syntax) :=
  match s.parts with
  | [] | .empty _ :: _ | .flags _ _ :: _ => .error ⟨.repetitionMissing, s.cur.here, none⟩
  | part :: parts => .ok (part, parts)

/-- Reads `?`, `*` or `+` and the question mark that makes it reluctant. -/
def repeatSimply (s : Parse) (min : Nat) (max : Option Nat) : Except Fault Parse := do
  let (part, parts) ← s.repeated
  let cur := s.cur.next
  let cur := if cur.sees '?' then cur.next else cur
  return { s with
    cur, parts := .repetition ⟨part.span.start, cur.pos⟩ min max part :: parts }

/-- Reads a repetition in braces. -/
def repeatCounted (s : Parse) : Except Fault Parse := do
  let (part, parts) ← s.repeated
  let (min, max, cur) ← readRange s.verbose s.cur
  return { s with
    cur, parts := .repetition ⟨part.span.start, cur.pos⟩ min max part :: parts }

/-- Reads a part that stands for itself. -/
def readPart (s : Parse) (c : Char) : Except Fault Parse := do
  let span := s.cur.charSpan
  match c with
  | '[' =>
    let (part, cur) ← readClass s.verbose s.cur
    return { s with cur, parts := part :: s.parts }
  | '\\' =>
    let (p, cur) ← readEscape s.verbose s.cur
    return { s with cur, parts := p.toSyntax :: s.parts }
  | '.' => return { s with cur := s.cur.next, parts := .dot span :: s.parts }
  | '^' => return { s with cur := s.cur.next, parts := .assertion span .startLine :: s.parts }
  | '$' => return { s with cur := s.cur.next, parts := .assertion span .endLine :: s.parts }
  | c => return { s with cur := s.cur.next, parts := .literal ⟨span, c, false⟩ :: s.parts }

/-- Reads one part or sign that starts with `c`. -/
def step (s : Parse) (c : Char) : Except Fault Parse :=
  match c with
  | '(' => s.openGroup
  | ')' => s.closeGroup
  | '|' => .ok s.alternate
  | '?' => s.repeatSimply 0 (some 1)
  | '*' => s.repeatSimply 0 none
  | '+' => s.repeatSimply 1 none
  | '\x7b' => s.repeatCounted
  | c => s.readPart c

/-- Ends a pattern: no group may be open. -/
def finish (s : Parse) : Except Fault Syntax :=
  match s.settle with
  | (pattern, []) => .ok pattern
  | (_, .group span .. :: _) => .error ⟨.groupUnclosed, span, none⟩
  | (pattern, .alternation .. :: _) => .ok pattern

/-- Reads at most `fuel` parts and signs, then ends the pattern. -/
def run : Nat → Parse → Except Fault Syntax
  | 0, s => s.finish
  | fuel + 1, s => do
    let s := { s with cur := s.cur.skipSpace s.verbose }
    match s.cur.peek? with
    | none => s.finish
    | some c => run fuel (← s.step c)

end Parse

/-! ## Nesting -/

mutual

/-- Checks that nothing in a set stands deeper than the limit; `depth` counts what is around it. -/
def ClassSet.checkNesting (depth : Nat) : ClassSet → Except Fault Unit
  | .bracketed span _ set => do
    if depth ≥ nestLimit then throw ⟨.nestingTooDeep, span, none⟩
    set.checkNesting (depth + 1)
  | .union span items => do
    if depth ≥ nestLimit then throw ⟨.nestingTooDeep, span, none⟩
    ClassSet.checkNestingAll (depth + 1) items
  | .operation span _ left right => do
    if depth ≥ nestLimit then throw ⟨.nestingTooDeep, span, none⟩
    left.checkNesting (depth + 1)
    right.checkNesting (depth + 1)
  | _ => .ok ()

def ClassSet.checkNestingAll (depth : Nat) : List ClassSet → Except Fault Unit
  | [] => .ok ()
  | item :: items => do
    item.checkNesting depth
    ClassSet.checkNestingAll depth items

end

mutual

/-- Checks that nothing in a pattern stands deeper than the limit; `depth` counts what is around
it. -/
def Syntax.checkNesting (depth : Nat) : Syntax → Except Fault Unit
  | .bracketed span _ set => do
    if depth ≥ nestLimit then throw ⟨.nestingTooDeep, span, none⟩
    set.checkNesting (depth + 1)
  | .repetition span _ _ body => do
    if depth ≥ nestLimit then throw ⟨.nestingTooDeep, span, none⟩
    body.checkNesting (depth + 1)
  | .group span _ body => do
    if depth ≥ nestLimit then throw ⟨.nestingTooDeep, span, none⟩
    body.checkNesting (depth + 1)
  | .alternation span branches => do
    if depth ≥ nestLimit then throw ⟨.nestingTooDeep, span, none⟩
    Syntax.checkNestingAll (depth + 1) branches
  | .concat span parts => do
    if depth ≥ nestLimit then throw ⟨.nestingTooDeep, span, none⟩
    Syntax.checkNestingAll (depth + 1) parts
  | _ => .ok ()

def Syntax.checkNestingAll (depth : Nat) : List Syntax → Except Fault Unit
  | [] => .ok ()
  | part :: parts => do
    part.checkNesting depth
    Syntax.checkNestingAll depth parts

end

/-- Reads a pattern. -/
def parse (pattern : String) : Except Fault Syntax := do
  let cur := Cursor.ofList pattern.toList
  let s ← Parse.run (pattern.toList.length + 1) { cur, start := cur.pos }
  s.checkNesting 0
  return s

end SchemaSieve.Regex
