import SchemaSieve.Yaml.Token

/-!
# Block structure

The state in which tokens are read. It keeps two things that the text does not write out: how far
the open blocks are indented, and where a key may have started whose colon is still to come. When
the colon comes, the token of the key is put in at that place (`Layout.markKey`).
-/

namespace SchemaSieve.Yaml

/-- A token that may turn out to start a key. A required one has to. -/
structure PendingKey where
  position : Nat
  mark : Mark
  required : Bool
  deriving DecidableEq

/-- Tokens read so far, and what the next one depends on. The margin is the first column that lies
inside the innermost block, zero outside of all blocks. Every open bracket has a pending key of its
own. -/
structure Layout where
  tokens : Array Token := #[]
  margin : Nat := 0
  outerMargins : List Nat := []
  allowsKey : Bool := true
  pending : Option PendingKey := none
  outerPending : List (Option PendingKey) := []

namespace Layout

/-- Whether a bracket is open. -/
def inFlow (l : Layout) : Bool := !l.outerPending.isEmpty

def push (l : Layout) (kind : TokenKind) (start stop : Mark) : Layout :=
  { l with tokens := l.tokens.push ⟨kind, start, stop⟩ }

/-- Puts a token without text before the token at a position. -/
def insertAt (l : Layout) (position : Nat) (kind : TokenKind) (m : Mark) : Layout :=
  { l with tokens := l.tokens.insertIdxIfInBounds position ⟨kind, m, m⟩ }

/-! ## Blocks -/

/-- Opens a block at the column of a mark if that lies inside the innermost block, with its token
before the one at a position. Inside brackets there are no blocks. -/
def openBlock (l : Layout) (kind : TokenKind) (m : Mark) (position : Nat) : Layout :=
  if l.inFlow || m.column < l.margin then l
  else
    let outerMargins := l.margin :: l.outerMargins
    { l.insertAt position kind m with margin := m.column + 1, outerMargins }

/-- Closes blocks from the innermost one outwards, those with a margin beyond a bound. -/
def closeMargins (bound : Nat) (m : Mark) (tokens : Array Token) (margin : Nat) :
    List Nat → Array Token × Nat × List Nat
  | [] => (tokens, margin, [])
  | outer :: rest =>
    if bound < margin then closeMargins bound m (tokens.push ⟨.blockEnd, m, m⟩) outer rest
    else (tokens, margin, outer :: rest)

/-- Closes the blocks that lie inside a bound. -/
def closeBlocks (l : Layout) (bound : Nat) (m : Mark) : Layout :=
  if l.inFlow then l
  else
    let (tokens, margin, outerMargins) := closeMargins bound m l.tokens l.margin l.outerMargins
    { l with tokens, margin, outerMargins }

/-! ## Keys -/

/-- Gives up a pending key whose colon did not come in time: it has to come on the same line and
within 1024 characters. -/
def expire (now : Mark) : Option PendingKey → Except SyntaxFault (Option PendingKey)
  | none => .ok none
  | some k =>
    if k.mark.line < now.line || k.mark.index + 1024 < now.index then
      if k.required then .error ⟨.unfinishedKey, k.mark⟩ else .ok none
    else .ok (some k)

/-- Gives up the pending keys that are too old. -/
def dropStaleKeys (l : Layout) (now : Mark) : Except SyntaxFault Layout := do
  return { l with
    pending := ← expire now l.pending
    outerPending := ← l.outerPending.mapM (expire now) }

/-- Gives up the pending key. -/
def dropKey (l : Layout) : Except SyntaxFault Layout :=
  match l.pending with
  | some k => if k.required then .error ⟨.unfinishedKey, k.mark⟩ else .ok { l with pending := none }
  | none => .ok l

/-- Takes the next token for a pending key, if a key is allowed. At the column of the innermost
block it has to be one. -/
def saveKey (l : Layout) (m : Mark) : Except SyntaxFault Layout := do
  if l.allowsKey then
    let l ← l.dropKey
    return { l with pending := some ⟨l.tokens.size, m, !l.inFlow && l.margin == m.column + 1⟩ }
  else return l

/-- Puts in the token of a key, and that of its mapping if it opens one. -/
def markKey (l : Layout) (k : PendingKey) : Layout :=
  let l := (l.insertAt k.position .key k.mark).openBlock .blockMapping k.mark k.position
  { l with pending := none, allowsKey := false }

/-! ## Brackets -/

def openBracket (l : Layout) : Layout :=
  { l with pending := none, outerPending := l.pending :: l.outerPending }

def closeBracket (l : Layout) : Layout :=
  match l.outerPending with
  | [] => l
  | pending :: outerPending => { l with pending, outerPending }

end Layout

end SchemaSieve.Yaml
