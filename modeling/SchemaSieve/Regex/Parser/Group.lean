import SchemaSieve.Regex.Parser.Escape

/-!
# Groups, flags and counts

The parts of a pattern that open a group, set flags or say how often something repeats.
-/

namespace SchemaSieve.Regex

open Text.Unicode (alphabeticSet numberSet)

def flag? : Char → Option Flag
  | 'i' => some .caseInsensitive
  | 'm' => some .multiLine
  | 's' => some .dotMatchesNewLine
  | 'U' => some .swapGreed
  | 'u' => some .unicode
  | 'R' => some .carriageReturn
  | 'x' => some .verbose
  | _ => none

/-- Reads flags up to the sign that ends them; `seen` holds the items read so far with their
stretches, the last one first. -/
def readFlagItems : List Char → Cursor → List (FlagItem × Span) →
    Except Fault (List FlagItem × Cursor)
  | [], cur, _ => .error ⟨.flagUnexpectedEnd, cur.here, none⟩
  | c :: rest, cur, seen =>
    if c = ':' ∨ c = ')' then
      match seen with
      | (.negation, span) :: _ => .error ⟨.flagDanglingNegation, span, none⟩
      | _ => .ok ((seen.map (·.1)).reverse, cur)
    else
      let item? : Option FlagItem := if c = '-' then some .negation else (flag? c).map .flag
      match item? with
      | none => .error ⟨.flagUnrecognized, cur.charSpan, none⟩
      | some item =>
        match seen.lookup item with
        | some earlier =>
          let cause := if item = .negation then Cause.flagRepeatedNegation else .flagDuplicate
          .error ⟨cause, cur.charSpan, some earlier⟩
        | none => readFlagItems rest cur.next ((item, cur.charSpan) :: seen)

/-- The characters of a group's name. -/
def isNameChar (first : Bool) (c : Char) : Bool :=
  c == '_' || alphabeticSet.contains c.toNat ||
    (!first && (c == '.' || c == '[' || c == ']' || numberSet.contains c.toNat))

/-- Reads the characters of a group's name. -/
def readNameChars : Bool → List Char → Cursor → Except Fault (List Char × Cursor)
  | _, [], cur => .error ⟨.groupNameUnexpectedEnd, cur.here, none⟩
  | first, c :: rest, cur =>
    if c = '>' then .ok ([], cur)
    else if !isNameChar first c then .error ⟨.groupNameInvalid, cur.charSpan, none⟩
    else do
      let (name, cur) ← readNameChars false rest cur.next
      return (c :: name, cur)

/-- The names of groups, with the stretches where they are given. -/
abbrev GroupNames := List (List Char × Span)

/-- Reads the name of a group, which no other group may have. -/
def readGroupName (names : GroupNames) (cur : Cursor) : Except Fault (GroupNames × Cursor) := do
  let (name, stop) ← readNameChars true cur.rest cur
  if name.isEmpty then throw ⟨.groupNameEmpty, cur.here, none⟩
  let span := stop.since cur.pos
  match names.lookup name with
  | some earlier => throw ⟨.groupNameDuplicate, span, some earlier⟩
  | none => return ((name, span) :: names, stop.next)

/-- What an opening parenthesis starts. -/
inductive Opening where
  | flags (span : Span) (items : List FlagItem)
  | group (span : Span) (items : List FlagItem)

/-- The look-around prefixes, none of which is supported. -/
def lookAroundPrefix? (cur : Cursor) : Option Cursor :=
  cur.past? ['?', '='] <|> cur.past? ['?', '!'] <|> cur.past? ['?', '<', '='] <|>
    cur.past? ['?', '<', '!']

/-- Reads what an opening parenthesis starts; the cursor stands before it. -/
def readOpening (verbose : Bool) (names : GroupNames) (cur : Cursor) :
    Except Fault (Opening × GroupNames × Cursor) := do
  let span := cur.charSpan
  let inner := cur.next.skipSpace verbose
  if let some after := lookAroundPrefix? inner then
    throw ⟨.lookAround, after.since cur.pos, none⟩
  match inner.past? ['?', 'P', '<'] <|> inner.past? ['?', '<'] with
  | some name =>
    let (names, cur) ← readGroupName names name
    return (.group span [], names, cur)
  | none =>
    match inner.past? ['?'] with
    | none => return (.group span [], names, inner)
    | some first =>
      if first.atEnd then throw ⟨.groupUnclosed, span, none⟩
      let (items, stop) ← readFlagItems first.rest first []
      if stop.sees ')' then
        if items.isEmpty then throw ⟨.repetitionMissing, inner.here, none⟩
        return (.flags (stop.next.since cur.pos) items, names, stop.next)
      else return (.group span items, names, stop.next)

/-! ## Counts -/

/-- The largest count of a repetition. -/
def maxCount : Nat := 4294967295

/-- Passes white space, which may stand around a count even outside verbose mode. -/
def skipWhiteSpace (verbose : Bool) (cur : Cursor) : Cursor :=
  (cur.takeRun verbose Text.isWhiteSpace).2

/-- Reads a count. The first part says what is wrong with it; the cursor is past it either way. -/
def readCount (verbose : Bool) (cur : Cursor) : Except Fault Nat × Cursor :=
  let first := (cur.takeRun false Text.isWhiteSpace).2
  let (digits, stop) := first.takeRun verbose Char.isDigit
  let span := stop.since first.pos
  let count := digits.foldl (fun n c => n * 10 + (c.toNat - 48)) 0
  let result : Except Fault Nat :=
    if digits.isEmpty then .error ⟨.countEmpty, span, none⟩
    else if count > maxCount then .error ⟨.countInvalid, span, none⟩
    else .ok count
  (result, skipWhiteSpace verbose stop)

/-- Reads a repetition in braces: its least count, its greatest count if it has one, and the
cursor past it. The cursor stands before the brace. -/
def readRange (verbose : Bool) (cur : Cursor) : Except Fault (Nat × Option Nat × Cursor) := do
  let unclosed (at_ : Cursor) : Fault := ⟨.repetitionUnclosed, at_.since cur.pos, none⟩
  let first := cur.step verbose
  if first.atEnd then throw (unclosed first)
  let (least, after) := readCount verbose first
  if after.atEnd then throw (unclosed after)
  let (min, max, stop) ←
    if after.sees ',' then
      let second := after.step verbose
      if second.atEnd then throw (unclosed second)
      if second.sees '\x7d' then pure (← least, none, second)
      else
        let min ← least
        let (most, stop) := readCount verbose second
        pure (min, some (← most), stop)
    else
      let n ← least
      pure (n, some n, after)
  if !stop.sees '\x7d' then throw (unclosed stop)
  let close := stop.step verbose
  let close := if close.sees '?' then close.next else close
  if max.any (· < min) then throw ⟨.repetitionRangeInvalid, close.since cur.pos, none⟩
  return (min, max, close)

end SchemaSieve.Regex
