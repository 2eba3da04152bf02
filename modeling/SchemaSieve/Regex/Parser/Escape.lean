import SchemaSieve.Regex.Fault
import SchemaSieve.Regex.Syntax

/-!
# Escapes

What a backslash and the characters after it stand for.
-/

namespace SchemaSieve.Regex

open Text.Unicode (PropertyQuery)

/-- What one escape, or one plain character, stands for. -/
inductive Primitive where
  | literal (l : Literal)
  | dot (span : Span)
  | assertion (span : Span) (kind : Assertion)
  | perl (span : Span) (name : PerlClass) (negated : Bool)
  | property (span : Span) (query : PropertyQuery) (negated : Bool)

def Primitive.span : Primitive → Span
  | literal l => l.span
  | dot s | assertion s _ | perl s _ _ | property s _ _ => s

def Primitive.toSyntax : Primitive → Syntax
  | literal l => .literal l
  | dot s => .dot s
  | assertion s k => .assertion s k
  | perl s n neg => .perl s n neg
  | property s q neg => .property s q neg

/-- The characters that have a meaning of their own and can always be escaped. -/
def isMeta (c : Char) : Bool :=
  ['\\', '.', '+', '*', '?', '(', ')', '|', '[', ']', '\x7b', '\x7d', '^', '$', '#', '&', '-',
    '~'].contains c

/-- The characters that stand for themselves behind a backslash. -/
def isEscapable (c : Char) : Bool :=
  isMeta c || (c.toNat < 0x80 && !c.isAlphanum && c != '<' && c != '>')

def hexDigit? (c : Char) : Option Nat :=
  if c.isDigit then some (c.toNat - 48)
  else if 'a' ≤ c ∧ c ≤ 'f' then some (c.toNat - 87)
  else if 'A' ≤ c ∧ c ≤ 'F' then some (c.toNat - 55)
  else none

/-- The number that hexadecimal digits write. -/
def hexValue (digits : List Char) : Nat :=
  digits.foldl (fun n c => n * 16 + (hexDigit? c).getD 0) 0

/-- The character with a number, if there is one. -/
def charOf? (n : Nat) : Option Char :=
  if n.isValidChar then some (Char.ofNat n) else none

/-- Reads exactly `count` hexadecimal digits. -/
def readHexDigits (verbose : Bool) : Nat → Cursor → Except Fault (List Char × Cursor)
  | 0, cur => .ok ([], cur)
  | count + 1, cur =>
    match cur.peek? with
    | none => .error ⟨.escapeUnexpectedEnd, cur.here, none⟩
    | some c =>
      if (hexDigit? c).isNone then .error ⟨.hexInvalidDigit, cur.charSpan, none⟩
      else do
        let (digits, cur) ← readHexDigits verbose count (cur.step verbose)
        return (c :: digits, cur)

/-- Reads the digits of a character's number, behind `x`, `u` or `U`: a fixed count of them, or
any count in braces. -/
def readHex (verbose : Bool) (start : Position) (letter : Char) (cur : Cursor) :
    Except Fault (Literal × Cursor) := do
  let first := cur.step verbose
  if first.atEnd then throw ⟨.escapeUnexpectedEnd, first.here, none⟩
  if first.sees '\x7b' then
    let (digits, cur) := (first.step verbose).takeRun verbose fun c => (hexDigit? c).isSome
    if cur.atEnd then throw ⟨.escapeUnexpectedEnd, cur.since first.pos, none⟩
    if !cur.sees '\x7d' then throw ⟨.hexInvalidDigit, cur.charSpan, none⟩
    let after := cur.step verbose
    if digits.isEmpty then throw ⟨.hexEmpty, after.since first.pos, none⟩
    match charOf? (hexValue digits) with
    | none => throw ⟨.hexInvalid, ⟨first.next.pos, cur.pos⟩, none⟩
    | some c => return (⟨⟨start, after.pos⟩, c, false⟩, after)
  else
    let count := if letter = 'x' then 2 else if letter = 'u' then 4 else 8
    let (digits, after) ← readHexDigits verbose count first
    match charOf? (hexValue digits) with
    | none => throw ⟨.hexInvalid, after.since first.pos, none⟩
    | some c => return (⟨⟨start, after.pos⟩, c, letter = 'x'⟩, after)

/-- A text cut at the first place where another stands. -/
def cutAt? (sep : List Char) : List Char → Option (List Char × List Char)
  | [] => none
  | c :: rest =>
    if sep.isPrefixOf (c :: rest) then some ([], (c :: rest).drop sep.length)
    else (cutAt? sep rest).map fun (before, after) => (c :: before, after)

/-- What the text between the braces of `\p` asks for, and whether it asks for the rest. -/
def propertyQuery (text : List Char) : PropertyQuery × Bool :=
  let valued (cut : List Char × List Char) : PropertyQuery :=
    .valued (String.ofList cut.1) (String.ofList cut.2)
  match cutAt? ['!', '='] text, cutAt? [':'] text, cutAt? ['='] text with
  | some cut, _, _ => (valued cut, true)
  | none, some cut, _ | none, none, some cut => (valued cut, false)
  | none, none, none => (.named (String.ofList text), false)

/-- Reads a Unicode class behind `p` or `P`: one letter, or a name in braces. -/
def readProperty (verbose : Bool) (start : Position) (negated : Bool) (cur : Cursor) :
    Except Fault (Primitive × Cursor) := do
  let first := cur.step verbose
  match first.peek? with
  | none => throw ⟨.escapeUnexpectedEnd, first.here, none⟩
  | some '\x7b' =>
    let (name, cur) := (first.step verbose).takeRun verbose (· != '\x7d')
    if cur.atEnd then throw ⟨.escapeUnexpectedEnd, cur.here, none⟩
    let after := cur.next
    let (query, other) := propertyQuery name
    return (.property ⟨start, after.pos⟩ query (negated != other), after)
  | some '\\' => throw ⟨.unicodeClassInvalid, first.charSpan, none⟩
  | some c =>
    let after := first.step verbose
    return (.property ⟨start, after.pos⟩ (.named (String.singleton c)) negated, after)

/-- The assertion that `\b` and a word in braces name. -/
def specialBoundary? : String → Option Assertion
  | "start" => some .wordStart
  | "end" => some .wordEnd
  | "start-half" => some .wordStartHalf
  | "end-half" => some .wordEndHalf
  | _ => none

/-- Reads what follows `\b`. A brace with a letter or a dash behind it names a special boundary,
any other brace starts a repetition. -/
def readBoundary (verbose : Bool) (start : Position) (cur : Cursor) :
    Except Fault (Primitive × Cursor) := do
  let plain : Primitive × Cursor := (.assertion (cur.since start) .wordBoundary, cur)
  if !cur.sees '\x7b' then return plain
  let isLetter (c : Char) : Bool := c.isAlpha || c == '-'
  let contents := cur.step verbose
  match contents.peek? with
  | none => throw ⟨.wordBoundaryUnexpectedEnd, contents.since start, none⟩
  | some c =>
    if !isLetter c then return plain
    let (name, stop) := contents.takeRun verbose isLetter
    if !stop.sees '\x7d' then throw ⟨.wordBoundaryUnclosed, stop.since cur.pos, none⟩
    match specialBoundary? (String.ofList name) with
    | none => throw ⟨.wordBoundaryUnrecognized, stop.since contents.pos, none⟩
    | some kind => return (.assertion (stop.next.since start) kind, stop.next)

/-- What one letter behind a backslash stands for, where it needs nothing after it. -/
def letterEscape? (span : Span) : Char → Option Primitive
  | 'a' => some (.literal ⟨span, '\x07', false⟩)
  | 'f' => some (.literal ⟨span, '\x0c', false⟩)
  | 't' => some (.literal ⟨span, '\t', false⟩)
  | 'n' => some (.literal ⟨span, '\n', false⟩)
  | 'r' => some (.literal ⟨span, '\r', false⟩)
  | 'v' => some (.literal ⟨span, '\x0b', false⟩)
  | 'd' => some (.perl span .digit false)
  | 'D' => some (.perl span .digit true)
  | 's' => some (.perl span .space false)
  | 'S' => some (.perl span .space true)
  | 'w' => some (.perl span .word false)
  | 'W' => some (.perl span .word true)
  | 'A' => some (.assertion span .startText)
  | 'z' => some (.assertion span .endText)
  | 'B' => some (.assertion span .notWordBoundary)
  | '<' => some (.assertion span .wordStart)
  | '>' => some (.assertion span .wordEnd)
  | _ => none

/-- Reads an escape; the cursor stands before the backslash. -/
def readEscape (verbose : Bool) (cur : Cursor) : Except Fault (Primitive × Cursor) :=
  let start := cur.pos
  let letter := cur.next
  let after := letter.next
  let span := after.since start
  match letter.peek? with
  | none => .error ⟨.escapeUnexpectedEnd, letter.since start, none⟩
  | some c =>
    if c.isDigit then .error ⟨.backreference, span, none⟩
    else if c = 'x' ∨ c = 'u' ∨ c = 'U' then
      (readHex verbose start c letter).map fun (l, cur) => (.literal l, cur)
    else if c = 'p' ∨ c = 'P' then readProperty verbose start (c = 'P') letter
    else if c = 'b' then readBoundary verbose start after
    else if isEscapable c then .ok (.literal ⟨span, c, false⟩, after)
    else
      match letterEscape? span c with
      | some p => .ok (p, after)
      | none => .error ⟨.escapeUnrecognized, span, none⟩

end SchemaSieve.Regex
