import SchemaSieve.Regex.Cursor

/-!
# What is wrong with a pattern

A fault has a cause and the stretch of the pattern that shows it. Its message repeats the pattern
and marks the stretch below it; a pattern of several lines is shown with line numbers between two
rules.
-/

namespace SchemaSieve.Regex

/-- The causes for which a pattern is refused. -/
inductive Cause where
  | classEscapeInvalid
  | classRangeInvalid
  | classRangeLiteral
  | classUnclosed
  | countEmpty
  | countInvalid
  | hexEmpty
  | hexInvalid
  | hexInvalidDigit
  | escapeUnexpectedEnd
  | escapeUnrecognized
  | flagDanglingNegation
  | flagDuplicate
  | flagRepeatedNegation
  | flagUnexpectedEnd
  | flagUnrecognized
  | groupNameDuplicate
  | groupNameEmpty
  | groupNameInvalid
  | groupNameUnexpectedEnd
  | groupUnclosed
  | groupUnopened
  | nestingTooDeep
  | repetitionRangeInvalid
  | repetitionUnclosed
  | repetitionMissing
  | wordBoundaryUnclosed
  | wordBoundaryUnrecognized
  | wordBoundaryUnexpectedEnd
  | unicodeClassInvalid
  | backreference
  | lookAround
  | unicodeNotAllowed
  | invalidUtf8
  | propertyNotFound
  | propertyValueNotFound
  deriving DecidableEq

/-- How deep groups, classes and repetitions may be nested. -/
def nestLimit : Nat := 250

def Cause.message : Cause → String
  | classEscapeInvalid => "invalid escape sequence found in character class"
  | classRangeInvalid => "invalid character class range, the start must be <= the end"
  | classRangeLiteral => "invalid range boundary, must be a literal"
  | classUnclosed => "unclosed character class"
  | countEmpty => "repetition quantifier expects a valid decimal"
  | countInvalid => "decimal literal invalid"
  | hexEmpty => "hexadecimal literal empty"
  | hexInvalid => "hexadecimal literal is not a Unicode scalar value"
  | hexInvalidDigit => "invalid hexadecimal digit"
  | escapeUnexpectedEnd => "incomplete escape sequence, reached end of pattern prematurely"
  | escapeUnrecognized => "unrecognized escape sequence"
  | flagDanglingNegation => "dangling flag negation operator"
  | flagDuplicate => "duplicate flag"
  | flagRepeatedNegation => "flag negation operator repeated"
  | flagUnexpectedEnd => "expected flag but got end of regex"
  | flagUnrecognized => "unrecognized flag"
  | groupNameDuplicate => "duplicate capture group name"
  | groupNameEmpty => "empty capture group name"
  | groupNameInvalid => "invalid capture group character"
  | groupNameUnexpectedEnd => "unclosed capture group name"
  | groupUnclosed => "unclosed group"
  | groupUnopened => "unopened group"
  | nestingTooDeep =>
    s!"exceed the maximum number of nested parentheses/brackets ({nestLimit})"
  | repetitionRangeInvalid =>
    "invalid repetition count range, the start must be <= the end"
  | repetitionUnclosed => "unclosed counted repetition"
  | repetitionMissing => "repetition operator missing expression"
  | wordBoundaryUnclosed =>
    "special word boundary assertion is either unclosed or contains an invalid character"
  | wordBoundaryUnrecognized =>
    "unrecognized special word boundary assertion, valid choices are: start, end, " ++
      "start-half or end-half"
  | wordBoundaryUnexpectedEnd =>
    "found either the beginning of a special word boundary or a bounded repetition on a \\b " ++
      "with an opening brace, but no closing brace"
  | unicodeClassInvalid => "invalid Unicode character class"
  | backreference => "backreferences are not supported"
  | lookAround => "look-around, including look-ahead and look-behind, is not supported"
  | unicodeNotAllowed => "Unicode not allowed here"
  | invalidUtf8 => "pattern can match invalid UTF-8"
  | propertyNotFound => "Unicode property not found"
  | propertyValueNotFound => "Unicode property value not found"

/-- A cause, the stretch that shows it and, where one thing clashes with another, the stretch of
the earlier one. -/
structure Fault where
  cause : Cause
  span : Span
  earlier : Option Span := none
  deriving DecidableEq

/-! ## Showing the stretch -/

/-- The lines of a text. A line feed ends a line, and a carriage return before it belongs to it;
nothing after the last line feed is no line. -/
def linesOf (pattern : List Char) : List (List Char) :=
  let lines := pattern.splitOn '\n'
  let lines := if lines.getLast? = some [] then lines.dropLast else lines
  let ended := lines.length - (if pattern.getLast? = some '\n' then 0 else 1)
  lines.mapIdx fun i line =>
    if i < ended && line.getLast? = some '\r' then line.dropLast else line

/-- Marks below a line, up to a column already written. -/
private def marks : Nat → List Span → List Char
  | _, [] => []
  | pos, s :: rest =>
    let start := max pos (s.start.column - 1)
    let width := max 1 (s.stop.column - s.start.column)
    List.replicate (start - pos) ' ' ++ List.replicate width '^' ++ marks (start + width) rest

private def padLeft (width : Nat) (s : String) : String :=
  String.ofList (List.replicate (width - s.length) ' ') ++ s

/-- The stretches of a fault, in the order of the pattern. -/
def Fault.spans (f : Fault) : List Span :=
  match f.earlier with
  | none => [f.span]
  | some e =>
    if e.start.offset < f.span.start.offset ∨
        (e.start.offset = f.span.start.offset ∧ e.stop.offset ≤ f.span.stop.offset) then
      [e, f.span]
    else [f.span, e]

/-- The pattern with the stretches of a fault that lie on one line marked below it. -/
def Fault.annotated (f : Fault) (pattern : List Char) : List String :=
  let lines := linesOf pattern
  let count := lines.length + if pattern.getLast? = some '\n' then 1 else 0
  let width := if count ≤ 1 then 0 else (toString count).length
  let single := f.spans.filter fun s => s.start.line == s.stop.line
  (lines.mapIdx fun i line =>
    let label := if width = 0 then "    " else padLeft width (toString (i + 1)) ++ ": "
    let own := single.filter fun s => s.start.line == i + 1
    (label ++ String.ofList line) ::
      if own.isEmpty then []
      else [String.ofList (List.replicate (if width = 0 then 4 else width + 2) ' ' ++
        marks 0 own)]).flatten

/-- The message for a fault of a pattern. -/
def Fault.message (f : Fault) (pattern : String) : String :=
  let cs := pattern.toList
  let shown := f.annotated cs
  let body :=
    if cs.contains '\n' then
      let rule := String.ofList (List.replicate 79 '~')
      let long := f.spans.filter fun s => s.start.line != s.stop.line
      let notes := long.map fun s =>
        s!"on line {s.start.line} (column {s.start.column}) through line {s.stop.line} " ++
          s!"(column {s.stop.column - 1})"
      [rule] ++ shown ++ [rule] ++ notes
    else shown
  "\n".intercalate (["regex parse error:"] ++ body ++ [s!"error: {f.cause.message}"])

end SchemaSieve.Regex
