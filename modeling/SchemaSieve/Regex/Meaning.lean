import SchemaSieve.Regex.Basic
import SchemaSieve.Regex.Fault
import SchemaSieve.Regex.Syntax

/-!
# What patterns mean

Turns the syntax of a pattern into a regular expression. Flags are read in the order of the
pattern: a setting holds to the end of the group it stands in. Where Unicode is off, classes are
sets of bytes, and one that leaves ASCII could match half a character, so it is refused.
-/

namespace SchemaSieve.Regex

open Text (CharSet)
open Text.Unicode (PropertyQuery)

/-- The flags that change what a pattern matches. -/
structure Flags where
  caseInsensitive : Bool := false
  multiLine : Bool := false
  dotMatchesNewLine : Bool := false
  unicode : Bool := true
  carriageReturn : Bool := false
  deriving DecidableEq

/-- The flags after a list of items; what the list does not mention stays. -/
def Flags.set (f : Flags) (items : List FlagItem) : Flags where
  caseInsensitive := (flagState? .caseInsensitive false items).getD f.caseInsensitive
  multiLine := (flagState? .multiLine false items).getD f.multiLine
  dotMatchesNewLine := (flagState? .dotMatchesNewLine false items).getD f.dotMatchesNewLine
  unicode := (flagState? .unicode false items).getD f.unicode
  carriageReturn := (flagState? .carriageReturn false items).getD f.carriageReturn

def Flags.wordRule (f : Flags) : WordRule := if f.unicode then .unicode else .ascii

/-- The last code point that classes count up to: that of characters, or of bytes. -/
def Flags.last (f : Flags) : Nat := if f.unicode then CharSet.maxCodePoint else 0xFF

private def fault {α : Type} (cause : Cause) (span : Span) : Except Fault α :=
  .error ⟨cause, span, none⟩

/-! ## Classes -/

/-- A set with the variants of its letters, where case makes no difference. -/
def foldSet (f : Flags) (s : CharSet) : CharSet :=
  if !f.caseInsensitive then s
  else if f.unicode then Text.Unicode.foldCase s
  else Text.Unicode.foldAsciiCase s

/-- A set as it leaves a class: closed under case, complemented if the class is negated. -/
def closeSet (f : Flags) (span : Span) (negated : Bool) (s : CharSet) : Except Fault CharSet :=
  let s := foldSet f s
  let s := if negated then s.complement f.last else s
  if f.unicode || s.upTo 0x7F then .ok s else fault .invalidUtf8 span

def AsciiClass.set : AsciiClass → CharSet
  | alnum => ⟨[(0x30, 0x39), (0x41, 0x5A), (0x61, 0x7A)]⟩
  | alpha => ⟨[(0x41, 0x5A), (0x61, 0x7A)]⟩
  | ascii => ⟨[(0x0, 0x7F)]⟩
  | blank => ⟨[(0x9, 0x9), (0x20, 0x20)]⟩
  | cntrl => ⟨[(0x0, 0x1F), (0x7F, 0x7F)]⟩
  | digit => ⟨[(0x30, 0x39)]⟩
  | graph => ⟨[(0x21, 0x7E)]⟩
  | lower => ⟨[(0x61, 0x7A)]⟩
  | print => ⟨[(0x20, 0x7E)]⟩
  | punct => ⟨[(0x21, 0x2F), (0x3A, 0x40), (0x5B, 0x60), (0x7B, 0x7E)]⟩
  | space => ⟨[(0x9, 0xD), (0x20, 0x20)]⟩
  | upper => ⟨[(0x41, 0x5A)]⟩
  | word => asciiWordSet
  | xdigit => ⟨[(0x30, 0x39), (0x41, 0x46), (0x61, 0x66)]⟩

def PerlClass.set (f : Flags) : PerlClass → CharSet
  | digit => if f.unicode then Text.Unicode.digitSet else AsciiClass.digit.set
  | space => if f.unicode then Text.Unicode.spaceSet else AsciiClass.space.set
  | word => f.wordRule.set

/-- The set of a class such as `\d`; it holds each letter with its variants already. -/
def perlSet (f : Flags) (span : Span) (name : PerlClass) (negated : Bool) :
    Except Fault CharSet :=
  let s := name.set f
  let s := if negated then s.complement f.last else s
  if f.unicode || s.upTo 0x7F then .ok s else fault .invalidUtf8 span

def propertySet (f : Flags) (span : Span) (query : PropertyQuery) (negated : Bool) :
    Except Fault CharSet :=
  if !f.unicode then fault .unicodeNotAllowed span
  else
    match query.find with
    | .error .unknownProperty => fault .propertyNotFound span
    | .error .unknownValue => fault .propertyValueNotFound span
    | .ok s => closeSet f span negated s

/-- Whether a literal stands for a byte that is no character, which only an escape can do. -/
def Literal.checkByte (f : Flags) (l : Literal) : Except Fault Unit :=
  if !f.unicode && l.isByte && l.char.toNat > 0x7F then fault .invalidUtf8 l.span else .ok ()

/-- The number of a literal in a class. -/
def Literal.member (f : Flags) (l : Literal) : Except Fault Nat := do
  l.checkByte f
  if !f.unicode && l.char.toNat > 0x7F then fault .unicodeNotAllowed l.span
  else return l.char.toNat

def SetOperation.apply (last : Nat) : SetOperation → CharSet → CharSet → CharSet
  | intersection, a, b => a.inter b
  | difference, a, b => a.diff last b
  | symmetricDifference, a, b => a.symmDiff last b

mutual

/-- The set that stands between brackets. -/
def ClassSet.toCharSet (f : Flags) : ClassSet → Except Fault CharSet
  | .empty _ => .ok .empty
  | .literal l => (l.member f).map CharSet.single
  | .range first last => do
    let lo ← first.member f
    let hi ← last.member f
    return .range lo hi
  | .ascii span name negated => closeSet f span negated name.set
  | .perl span name negated => perlSet f span name negated
  | .property span query negated => propertySet f span query negated
  | .bracketed span negated set => do closeSet f span negated (← set.toCharSet f)
  | .union _ items => ClassSet.toCharSetAll f items
  | .operation _ op left right => do
    let a ← left.toCharSet f
    let b ← right.toCharSet f
    return op.apply f.last (foldSet f a) (foldSet f b)

/-- The union of the sets of some items. -/
def ClassSet.toCharSetAll (f : Flags) : List ClassSet → Except Fault CharSet
  | [] => .ok .empty
  | item :: items => do
    let s ← item.toCharSet f
    let rest ← ClassSet.toCharSetAll f items
    return s.union rest

end

/-! ## Patterns -/

/-- The question that an assertion asks under given flags. -/
def Assertion.look (f : Flags) : Assertion → Look
  | startLine =>
    if !f.multiLine then .start else if f.carriageReturn then .crlfLineStart else .lineStart
  | endLine =>
    if !f.multiLine then .stop else if f.carriageReturn then .crlfLineStop else .lineStop
  | startText => .start
  | endText => .stop
  | wordBoundary => .boundary f.wordRule
  | notWordBoundary => .notBoundary f.wordRule
  | wordStart => .wordStart f.wordRule
  | wordEnd => .wordStop f.wordRule
  | wordStartHalf => .wordStartHalf f.wordRule
  | wordEndHalf => .wordStopHalf f.wordRule

/-- What a point matches: any character, or any that does not end a line. -/
def dotSet (f : Flags) : CharSet :=
  if f.dotMatchesNewLine then .range 0 CharSet.maxCodePoint
  else if f.carriageReturn then
    (CharSet.ofRanges [(0xA, 0xA), (0xD, 0xD)]).complement CharSet.maxCodePoint
  else (CharSet.single 0xA).complement CharSet.maxCodePoint

/-- The characters that a literal matches. -/
def Literal.set (f : Flags) (l : Literal) : CharSet :=
  let n := l.char.toNat
  if !f.caseInsensitive then .single n
  else if f.unicode then .ofRanges ((Text.Unicode.caseVariants n).map fun v => (v, v))
  else Text.Unicode.foldAsciiCase (.single n)

mutual

/-- What a pattern means under given flags, and the flags that hold after it. -/
def Syntax.toRegex (f : Flags) : Syntax → Except Fault (Regex × Flags)
  | .empty _ => .ok (.empty, f)
  | .flags _ items => .ok (.empty, f.set items)
  | .literal l => do
    l.checkByte f
    return (.char (l.set f), f)
  | .dot span => if f.unicode then .ok (.char (dotSet f), f) else fault .invalidUtf8 span
  | .assertion _ kind => .ok (.look (kind.look f), f)
  | .perl span name negated => (perlSet f span name negated).map fun s => (.char s, f)
  | .property span query negated => (propertySet f span query negated).map fun s => (.char s, f)
  | .bracketed span negated set => do
    let s ← set.toCharSet f
    return (.char (← closeSet f span negated s), f)
  | .repetition _ min max body => do
    let (r, f) ← body.toRegex f
    return (.repeated min max r, f)
  | .group _ items body => do
    let (r, _) ← body.toRegex (f.set items)
    return (r, f)
  | .alternation _ branches => Syntax.alternatives f branches
  | .concat _ parts => Syntax.sequence f parts

/-- One part after the other. -/
def Syntax.sequence (f : Flags) : List Syntax → Except Fault (Regex × Flags)
  | [] => .ok (.empty, f)
  | [part] => part.toRegex f
  | part :: parts => do
    let (r, f) ← part.toRegex f
    let (rest, f) ← Syntax.sequence f parts
    return (.seq r rest, f)

/-- One branch or another; a setting in a branch holds in the branches after it. -/
def Syntax.alternatives (f : Flags) : List Syntax → Except Fault (Regex × Flags)
  | [] => .ok (.empty, f)
  | [branch] => branch.toRegex f
  | branch :: branches => do
    let (r, f) ← branch.toRegex f
    let (rest, f) ← Syntax.alternatives f branches
    return (.alt r rest, f)

end

end SchemaSieve.Regex
