import SchemaSieve.Regex.Parser.Escape

/-!
# Bracketed classes

A class is read item by item. What is open around the items being read (classes, and the left sides
of set operations) waits on a stack of frames.
-/

namespace SchemaSieve.Regex

/-- The items of a class read so far, the last one first, and the stretch they take. -/
structure ItemRun where
  span : Span
  items : List ClassSet := []

namespace ItemRun

def push (run : ItemRun) (item : ClassSet) : ItemRun :=
  ⟨⟨if run.items.isEmpty then item.span.start else run.span.start, item.span.stop⟩,
    item :: run.items⟩

def toSet (run : ItemRun) : ClassSet :=
  match run.items with
  | [] => .empty run.span
  | [item] => item
  | items => .union run.span items.reverse

end ItemRun

/-- What waits for the items being read: a class around them, or the left side of an operation. -/
inductive ClassFrame where
  | opened (outer : ItemRun) (span : Span) (negated : Bool)
  | operand (op : SetOperation) (left : ClassSet)

private def verbatim (cur : Cursor) (c : Char) : Literal := ⟨cur.charSpan, c, false⟩

/-- Reads dashes that stand for themselves at the start of a class. -/
def readDashes (verbose : Bool) (start : Position) :
    Nat → ItemRun → Cursor → Except Fault (ItemRun × Cursor)
  | 0, run, cur => .ok (run, cur)
  | fuel + 1, run, cur =>
    if cur.sees '-' then
      let after := cur.step verbose
      if after.atEnd then .error ⟨.classUnclosed, ⟨start, start⟩, none⟩
      else readDashes verbose start fuel (run.push (.literal (verbatim cur '-'))) after
    else .ok (run, cur)

/-- Reads the opening of a class: the bracket, a negation, then dashes and after none of them a
bracket that stand for themselves. -/
def openClass (verbose : Bool) (cur : Cursor) : Except Fault (Span × Bool × ItemRun × Cursor) := do
  let start := cur.pos
  let unclosed (cur : Cursor) : Fault := ⟨.classUnclosed, cur.since start, none⟩
  let first := cur.step verbose
  if first.atEnd then throw (unclosed first)
  let negated := first.sees '^'
  let body := if negated then first.step verbose else first
  if body.atEnd then throw (unclosed body)
  let (run, cur) ← readDashes verbose start body.rest.length ⟨body.here, []⟩ body
  if run.items.isEmpty && cur.sees ']' then
    let after := cur.step verbose
    if after.atEnd then throw (unclosed after)
    return (after.since start, negated, run.push (.literal (verbatim cur ']')), after)
  else return (cur.since start, negated, run, cur)

def asciiClass? : String → Option AsciiClass
  | "alnum" => some .alnum
  | "alpha" => some .alpha
  | "ascii" => some .ascii
  | "blank" => some .blank
  | "cntrl" => some .cntrl
  | "digit" => some .digit
  | "graph" => some .graph
  | "lower" => some .lower
  | "print" => some .print
  | "punct" => some .punct
  | "space" => some .space
  | "upper" => some .upper
  | "word" => some .word
  | "xdigit" => some .xdigit
  | _ => none

/-- Reads a class named between `[:` and `:]`; anything else there is left unread. -/
def asciiItem? (cur : Cursor) : Option (ClassSet × Cursor) := do
  let colon ← cur.past? ['[', ':']
  let negated := colon.sees '^'
  let body := if negated then colon.next else colon
  let (name, stop) := body.takeRun false (· != ':')
  let after ← stop.past? [':', ']']
  let kind ← asciiClass? (String.ofList name)
  return (.ascii (after.since cur.pos) kind negated, after)

/-- One end of a range, or an item that is no range. -/
def readClassPrimitive (verbose : Bool) (cur : Cursor) : Except Fault (Primitive × Cursor) :=
  match cur.peek? with
  | some '\\' => readEscape verbose cur
  | some c => .ok (.literal (verbatim cur c), cur.next)
  | none => .error ⟨.classUnclosed, cur.here, none⟩

def Primitive.toClassSet : Primitive → Except Fault ClassSet
  | literal l => .ok (.literal l)
  | perl s n neg => .ok (.perl s n neg)
  | property s q neg => .ok (.property s q neg)
  | dot s | assertion s _ => .error ⟨.classEscapeInvalid, s, none⟩

def Primitive.toLiteral : Primitive → Except Fault Literal
  | literal l => .ok l
  | p => .error ⟨.classRangeLiteral, p.span, none⟩

/-- Reads an item or a range of characters. A dash before a bracket or another dash ends the item
instead of making it a range. -/
def readClassItem (verbose : Bool) (unclosed : Fault) (cur : Cursor) :
    Except Fault (ClassSet × Cursor) := do
  let (first, cur) ← readClassPrimitive verbose cur
  let cur := cur.skipSpace verbose
  if cur.atEnd then throw unclosed
  let second := cur.peekSecond? verbose
  if !cur.sees '-' || second == some ']' || second == some '-' then
    return (← first.toClassSet, cur)
  let cur := cur.step verbose
  if cur.atEnd then throw unclosed
  let (last, cur) ← readClassPrimitive verbose cur
  let lo ← first.toLiteral
  let hi ← last.toLiteral
  let item := ClassSet.range lo hi
  if hi.char < lo.char then throw ⟨.classRangeInvalid, item.span, none⟩
  return (item, cur)

/-- Applies the operation that waits for its right side, if there is one. -/
def closeOperation (right : ClassSet) : List ClassFrame → ClassSet × List ClassFrame
  | .operand op left :: frames =>
    (.operation ⟨left.span.start, right.span.stop⟩ op left right, frames)
  | frames => (right, frames)

/-- The fault of a class that does not end: it shows the innermost opening. -/
def unclosedClass (cur : Cursor) : List ClassFrame → Fault
  | [] => ⟨.classUnclosed, cur.here, none⟩
  | .opened _ span _ :: _ => ⟨.classUnclosed, span, none⟩
  | .operand _ _ :: frames => unclosedClass cur frames

/-- The set operation that comes next. -/
def setOperation? (cur : Cursor) : Option (SetOperation × Cursor) :=
  ((cur.past? ['&', '&']).map (.intersection, ·)) <|>
    ((cur.past? ['-', '-']).map (.difference, ·)) <|>
    ((cur.past? ['~', '~']).map (.symmetricDifference, ·))

/-- Reads the rest of a class, at most `fuel` items and signs of it. -/
def readClassWithin (verbose : Bool) :
    Nat → List ClassFrame → ItemRun → Cursor → Except Fault (Syntax × Cursor)
  | 0, frames, _, cur => .error (unclosedClass cur frames)
  | fuel + 1, frames, run, cur => do
    let cur := cur.skipSpace verbose
    match cur.peek? with
    | none => throw (unclosedClass cur frames)
    | some '[' =>
      match asciiItem? cur with
      | some (item, cur) => readClassWithin verbose fuel frames (run.push item) cur
      | none =>
        let (span, negated, inner, cur) ← openClass verbose cur
        readClassWithin verbose fuel (.opened run span negated :: frames) inner cur
    | some ']' =>
      let (set, frames) := closeOperation run.toSet frames
      let after := cur.next
      match frames with
      | [.opened _ span negated] =>
        return (.bracketed ⟨span.start, after.pos⟩ negated set, after)
      | .opened outer span negated :: frames =>
        let item := .bracketed ⟨span.start, after.pos⟩ negated set
        readClassWithin verbose fuel frames (outer.push item) after
      | _ => throw (unclosedClass cur frames)
    | some _ =>
      match setOperation? cur with
      | some (op, after) =>
        let (left, frames) := closeOperation run.toSet frames
        readClassWithin verbose fuel (.operand op left :: frames) ⟨after.here, []⟩ after
      | none =>
        let (item, cur) ← readClassItem verbose (unclosedClass cur frames) cur
        readClassWithin verbose fuel frames (run.push item) cur

/-- Reads a class; the cursor stands before its opening bracket. -/
def readClass (verbose : Bool) (cur : Cursor) : Except Fault (Syntax × Cursor) := do
  let (span, negated, run, cur) ← openClass verbose cur
  readClassWithin verbose (cur.rest.length + 1) [.opened ⟨cur.here, []⟩ span negated] run cur

end SchemaSieve.Regex
