import SchemaSieve.Regex.Cursor
import SchemaSieve.Text.Unicode.Query

/-!
# The syntax of patterns

A pattern as it is written, each part with the stretch it comes from.
-/

namespace SchemaSieve.Regex

/-- The switches a pattern can set, one letter each. -/
inductive Flag where
  | caseInsensitive
  | multiLine
  | dotMatchesNewLine
  | swapGreed
  | unicode
  | carriageReturn
  | verbose
  deriving DecidableEq

/-- One item of a list of flags; a negation turns off the flags after it. -/
inductive FlagItem where
  | negation
  | flag (f : Flag)
  deriving DecidableEq

/-- Whether a list of flags turns a flag on or off. -/
def flagState? (f : Flag) : Bool → List FlagItem → Option Bool
  | _, [] => none
  | _, .negation :: rest => flagState? f true rest
  | negated, .flag g :: rest => if g = f then some !negated else flagState? f negated rest

/-- The classes `\d`, `\s` and `\w`. -/
inductive PerlClass where
  | digit
  | space
  | word
  deriving DecidableEq

/-- The classes with a name between colons, all of them within ASCII. -/
inductive AsciiClass where
  | alnum
  | alpha
  | ascii
  | blank
  | cntrl
  | digit
  | graph
  | lower
  | print
  | punct
  | space
  | upper
  | word
  | xdigit
  deriving DecidableEq

/-- What is asserted about a place, before flags give it its exact meaning. -/
inductive Assertion where
  | startLine
  | endLine
  | startText
  | endText
  | wordBoundary
  | notWordBoundary
  | wordStart
  | wordEnd
  | wordStartHalf
  | wordEndHalf
  deriving DecidableEq

/-- A character, as itself or by an escape. `isByte` tells an escape of two hexadecimal digits,
which stands for a byte where Unicode is off. -/
structure Literal where
  span : Span
  char : Char
  isByte : Bool := false
  deriving DecidableEq

/-- The operations between two sets in a class. -/
inductive SetOperation where
  | intersection
  | difference
  | symmetricDifference
  deriving DecidableEq

/-- What stands between the brackets of a class. -/
inductive ClassSet where
  | empty (span : Span)
  | literal (l : Literal)
  | range (first last : Literal)
  | ascii (span : Span) (name : AsciiClass) (negated : Bool)
  | perl (span : Span) (name : PerlClass) (negated : Bool)
  | property (span : Span) (query : Text.Unicode.PropertyQuery) (negated : Bool)
  | bracketed (span : Span) (negated : Bool) (set : ClassSet)
  | union (span : Span) (items : List ClassSet)
  | operation (span : Span) (op : SetOperation) (left right : ClassSet)

def ClassSet.span : ClassSet → Span
  | empty s | ascii s _ _ | perl s _ _ | property s _ _ | bracketed s _ _ | union s _
  | operation s _ _ _ => s
  | literal l => l.span
  | range first last => ⟨first.span.start, last.span.stop⟩

/-- A pattern. -/
inductive Syntax where
  | empty (span : Span)
  | flags (span : Span) (items : List FlagItem)
  | literal (l : Literal)
  | dot (span : Span)
  | assertion (span : Span) (kind : Assertion)
  | perl (span : Span) (name : PerlClass) (negated : Bool)
  | property (span : Span) (query : Text.Unicode.PropertyQuery) (negated : Bool)
  | bracketed (span : Span) (negated : Bool) (set : ClassSet)
  | repetition (span : Span) (min : Nat) (max : Option Nat) (body : Syntax)
  | group (span : Span) (items : List FlagItem) (body : Syntax)
  | alternation (span : Span) (branches : List Syntax)
  | concat (span : Span) (parts : List Syntax)

def Syntax.span : Syntax → Span
  | empty s | flags s _ | dot s | assertion s _ | perl s _ _ | property s _ _ | bracketed s _ _
  | repetition s _ _ _ | group s _ _ | alternation s _ | concat s _ => s
  | literal l => l.span

end SchemaSieve.Regex
