import SchemaSieve.Text.Unicode.Query

/-!
# Regular expressions and their matches

`Regex` is a pattern's meaning, free of flags and spelling. A match is found by carrying the set of
places that can be reached through the expression: a set of places in a text is a number whose bit
`i` stands for the place before character `i`.
-/

namespace SchemaSieve

open Text (CharSet)

namespace Regex

/-- What makes a character part of a word. -/
inductive WordRule where
  | unicode
  | ascii
  deriving DecidableEq

/-- What can be asked of a place in a text. -/
inductive Look where
  | start
  | stop
  | lineStart
  | lineStop
  /-- The start of a line where a carriage return, alone or with a line feed, ends lines too. -/
  | crlfLineStart
  | crlfLineStop
  | boundary (rule : WordRule)
  | notBoundary (rule : WordRule)
  | wordStart (rule : WordRule)
  | wordStop (rule : WordRule)
  | wordStartHalf (rule : WordRule)
  | wordStopHalf (rule : WordRule)
  deriving DecidableEq

end Regex

/-- A regular expression. -/
inductive Regex where
  | empty
  | char (set : CharSet)
  | look (l : Regex.Look)
  | seq (first second : Regex)
  | alt (left right : Regex)
  | repeated (min : Nat) (max : Option Nat) (body : Regex)
  deriving DecidableEq

namespace Regex

/-- The letters, digits and underscore of ASCII. -/
def asciiWordSet : CharSet := ⟨[(0x30, 0x39), (0x41, 0x5A), (0x5F, 0x5F), (0x61, 0x7A)]⟩

def WordRule.set : WordRule → CharSet
  | unicode => Text.Unicode.wordSet
  | ascii => asciiWordSet

/-- Whether a character next to a place, if there is one, is part of a word. -/
def WordRule.isWord (rule : WordRule) (c : Option Char) : Bool :=
  c.any fun c => rule.set.contains c.toNat

/-- Whether a place with given neighbours has a property. -/
def Look.holds (before after : Option Char) : Look → Bool
  | start => before.isNone
  | stop => after.isNone
  | lineStart => before.isNone || before == some '\n'
  | lineStop => after.isNone || after == some '\n'
  | crlfLineStart =>
    before.isNone || before == some '\n' || (before == some '\r' && after != some '\n')
  | crlfLineStop =>
    after.isNone || after == some '\r' || (after == some '\n' && before != some '\r')
  | boundary rule => rule.isWord before != rule.isWord after
  | notBoundary rule => rule.isWord before == rule.isWord after
  | wordStart rule => !rule.isWord before && rule.isWord after
  | wordStop rule => rule.isWord before && !rule.isWord after
  | wordStartHalf rule => !rule.isWord before
  | wordStopHalf rule => !rule.isWord after

/-! ## What an expression matches -/

/-- The character before a place. -/
def before? (text : List Char) (i : Nat) : Option Char :=
  if i = 0 then none else text[i - 1]?

mutual

/-- `r.Matches text i j`: the expression matches the stretch of a text from place `i` to place
`j`. -/
inductive Matches (text : List Char) : Regex → Nat → Nat → Prop where
  | empty (i : Nat) : Matches text .empty i i
  | char {set : CharSet} {i : Nat} {c : Char} (h : text[i]? = some c)
      (hc : set.contains c.toNat = true) : Matches text (.char set) i (i + 1)
  | look {l : Look} {i : Nat} (h : l.holds (before? text i) text[i]? = true) :
      Matches text (.look l) i i
  | seq {a b : Regex} {i j k : Nat} (ha : Matches text a i j) (hb : Matches text b j k) :
      Matches text (.seq a b) i k
  | left {a b : Regex} {i j : Nat} (h : Matches text a i j) : Matches text (.alt a b) i j
  | right {a b : Regex} {i j : Nat} (h : Matches text b i j) : Matches text (.alt a b) i j
  | repeated {min : Nat} {max : Option Nat} {r : Regex} {n i j : Nat} (hmin : min ≤ n)
      (hmax : ∀ m ∈ max, n ≤ m) (h : MatchesTimes text r n i j) :
      Matches text (.repeated min max r) i j

/-- `MatchesTimes text r n i j`: `n` matches of an expression in a row lead from place `i` to
place `j`. -/
inductive MatchesTimes (text : List Char) : Regex → Nat → Nat → Nat → Prop where
  | none (r : Regex) (i : Nat) : MatchesTimes text r 0 i i
  | more {r : Regex} {n i j k : Nat} (h : Matches text r i j)
      (hn : MatchesTimes text r n j k) : MatchesTimes text r (n + 1) i k

end

/-! ## Finding matches -/

/-- An expression made ready for one text: what it asks of characters and places has become sets
of places. -/
inductive Walk where
  | stay
  /-- From a place in the set, over the character there. -/
  | advance (places : Nat)
  /-- Stays at a place in the set. -/
  | filter (places : Nat)
  | seq (first second : Walk)
  | alt (left right : Walk)
  | repeated (min : Nat) (max : Option Nat) (body : Walk)

/-- The set of the numbers below `n` with a property. -/
def places (p : Nat → Bool) : Nat → Nat
  | 0 => 0
  | n + 1 => places p n ||| (if p n then 1 <<< n else 0)

/-- Makes an expression ready for a text. -/
def on (text : Array Char) : Regex → Walk
  | empty => .stay
  | char set => .advance (places (fun i => text[i]?.any fun c => set.contains c.toNat) text.size)
  | look l =>
    .filter (places (fun i => l.holds (if i = 0 then none else text[i - 1]?) text[i]?)
      (text.size + 1))
  | seq a b => .seq (a.on text) (b.on text)
  | alt a b => .alt (a.on text) (b.on text)
  | repeated min max r => .repeated min max (r.on text)

/-- Applies a function `n` times, or until it changes nothing. -/
def iterate (f : Nat → Nat) : Nat → Nat → Nat
  | 0, m => m
  | n + 1, m => if f m = m then m else iterate f n (f m)

/-- The places that can be reached from a set of places of a text with `size` characters. -/
def Walk.run (size : Nat) : Walk → Nat → Nat
  | stay, m => m
  | advance places, m => (m &&& places) <<< 1
  | filter places, m => m &&& places
  | seq a b, m => b.run size (a.run size m)
  | alt a b, m => a.run size m ||| b.run size m
  | repeated min max body, m =>
    iterate (fun m => m ||| body.run size m) ((max.map (· - min)).getD (size + 1))
      (iterate (body.run size) min m)

/-- Whether an expression matches a stretch of a text, wherever it starts. -/
def isMatch (r : Regex) (text : String) : Bool :=
  let cs := text.toList.toArray
  (r.on cs).run cs.size (Nat.pow 2 (cs.size + 1) - 1) != 0

/-! ## Size -/

/-- Whether an expression can match nothing but the empty stretch. -/
def isEmptyOnly : Regex → Bool
  | empty | look _ => true
  | char _ => false
  | seq a b | alt a b => a.isEmptyOnly && b.isEmptyOnly
  | repeated _ max r => max == some 0 || r.isEmptyOnly

/-- The bytes that one state of a matching machine takes. -/
def stateSize : Nat := 32

/-- About how many bytes a range of characters adds to the state of its set. -/
def rangeSize (range : Nat × Nat) : Nat := if range.2 < 0x80 then 8 else 2 * stateSize

/-- An estimate of the bytes that a set of characters takes in a matching machine that reads UTF-8:
one state for each byte of a single character, and for other sets one with all ranges. -/
def charSetSize (set : CharSet) : Nat :=
  match set.ranges with
  | [(first, last)] =>
    if first = last then stateSize * (Char.ofNat first).utf8Size
    else stateSize + rangeSize (first, last)
  | ranges => ranges.foldr (fun range size => size + rangeSize range) stateSize

/-- An estimate of how many bytes a matching machine for an expression takes. A repetition holds as
many copies as it can need; more than one of what is empty is never needed. -/
def machineSize : Regex → Nat
  | empty | look _ => stateSize
  | char set => charSetSize set
  | seq a b => a.machineSize + b.machineSize
  | alt a b => stateSize + a.machineSize + b.machineSize
  | repeated min max r =>
    let copies := match max with
      | none => Nat.max min 1
      | some m => m
    if r.isEmptyOnly then r.machineSize + stateSize
    else
      match max with
      | some m => r.machineSize * copies + stateSize * (m - min)
      | none => r.machineSize * copies + stateSize

end Regex

end SchemaSieve
