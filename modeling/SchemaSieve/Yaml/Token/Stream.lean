import SchemaSieve.Yaml.Token.Layout
import SchemaSieve.Yaml.Token.Scalar
import SchemaSieve.Yaml.Token.Word

/-!
# The tokens of a text

`tokensOf` reads a text token by token. The last token is always the end of the stream.
-/

namespace SchemaSieve.Yaml

/-- Passes blanks, comments and line ends before a token. Outside of brackets a key may start behind a
line end, and where a key may start a tab is no blank. -/
def skipToToken (inFlow : Bool) (allowsKey inComment : Bool) : List Cell → Bool × List Cell
  | [] => (allowsKey, [])
  | c :: rest =>
    if isBreak c.char then skipToToken inFlow (allowsKey || !inFlow) false rest
    else if c.char == '\x00' then (allowsKey, c :: rest)
    else if inComment then skipToToken inFlow allowsKey true rest
    else if c.char == '#' then skipToToken inFlow allowsKey true rest
    else if c.char == ' ' || (c.char == '\t' && (inFlow || !allowsKey)) ||
        (c.char == '\ufeff' && c.mark.column == 0) then
      skipToToken inFlow allowsKey false rest
    else (allowsKey, c :: rest)

namespace Layout

/-- The next token is a sign of some characters. -/
private def sign (l : Layout) (kind : TokenKind) (width : Nat) (cells : List Cell) :
    Except SyntaxFault (Layout × List Cell) :=
  let rest := cells.drop width
  .ok (l.push kind (here cells) (here rest), rest)

/-- A directive, or the sign of a document's start or end; all blocks end before it. -/
private def atMargin (l : Layout) (m : Mark) : Except SyntaxFault Layout := do
  let l ← (l.closeBlocks 0 m).dropKey
  return { l with allowsKey := false }

private def flowStart (l : Layout) (kind : TokenKind) (cells : List Cell) :
    Except SyntaxFault (Layout × List Cell) := do
  let l ← l.saveKey (here cells)
  { l.openBracket with allowsKey := true }.sign kind 1 cells

private def flowEnd (l : Layout) (kind : TokenKind) (cells : List Cell) :
    Except SyntaxFault (Layout × List Cell) := do
  let l ← l.dropKey
  { l.closeBracket with allowsKey := false }.sign kind 1 cells

private def comma (l : Layout) (cells : List Cell) : Except SyntaxFault (Layout × List Cell) := do
  let l ← l.dropKey
  { l with allowsKey := true }.sign .comma 1 cells

/-- Opens a block at a sign, which has to stand where a key may start. -/
private def openBlockAt (l : Layout) (kind : TokenKind) (problem : Problem) (cells : List Cell) :
    Except SyntaxFault Layout :=
  if l.inFlow then .ok l
  else if l.allowsKey then .ok (l.openBlock kind (here cells) l.tokens.size)
  else failAt problem cells

private def item (l : Layout) (cells : List Cell) : Except SyntaxFault (Layout × List Cell) := do
  let l ← l.openBlockAt .blockList .misplacedItem cells
  let l ← l.dropKey
  { l with allowsKey := true }.sign .item 1 cells

private def key (l : Layout) (cells : List Cell) : Except SyntaxFault (Layout × List Cell) := do
  let l ← l.openBlockAt .blockMapping .misplacedKey cells
  let l ← l.dropKey
  { l with allowsKey := !l.inFlow }.sign .key 1 cells

private def value (l : Layout) (cells : List Cell) : Except SyntaxFault (Layout × List Cell) := do
  match l.pending with
  | some k => (l.markKey k).sign .value 1 cells
  | none =>
    let l ← l.openBlockAt .blockMapping .misplacedValue cells
    { l with allowsKey := !l.inFlow }.sign .value 1 cells

/-- A token that may start a key and has a text of its own. -/
private def word (l : Layout) (cells : List Cell) (kind : TokenKind) (rest : List Cell) :
    Except SyntaxFault (Layout × List Cell) := do
  let l ← l.saveKey (here cells)
  return ({ l with allowsKey := false }.push kind (here cells) (here rest), rest)

private def block (l : Layout) (literal : Bool) (cells : List Cell) :
    Except SyntaxFault (Layout × List Cell) := do
  let l ← l.dropKey
  let (text, rest) ← readBlock literal l.margin (cells.drop 1)
  return ({ l with allowsKey := true }.push (.scalar .block (String.ofList text))
    (here cells) (here rest), rest)

private def quoted (l : Layout) (quote : Char) (cells : List Cell) :
    Except SyntaxFault (Layout × List Cell) := do
  let (text, rest) ← readQuoted quote cells.length [] .empty (cells.drop 1)
  l.word cells (.scalar .quoted (String.ofList text)) rest

private def plain (l : Layout) (cells : List Cell) : Except SyntaxFault (Layout × List Cell) := do
  let (text, passedBreak, rest) ← readPlain l.inFlow l.margin [] .empty cells
  let (l, rest) ← l.word cells (.scalar .plain (String.ofList text)) rest
  return ({ l with allowsKey := passedBreak }, rest)

/-- Whether a plain scalar can start with the next character. -/
private def startsPlain (l : Layout) (cells : List Cell) : Bool :=
  let c := ahead cells
  let isSign := ['-', '?', ':', ',', '[', ']', '\x7b', '\x7d', '#', '&', '*', '!', '|', '>', '\'', '"',
    '%', '@', '`'].contains c
  (!endsWord c && !isSign) || (c == '-' && !isBlank (aheadBy 1 cells)) ||
    (!l.inFlow && (c == '?' || c == ':') && !endsWord (aheadBy 1 cells))

/-- Reads the token at the next character, with the tokens that have no text before it. -/
private def readToken (l : Layout) (cells : List Cell) :
    Except SyntaxFault (Layout × List Cell) := do
  let m := here cells
  let isAlone := endsWord (aheadBy 1 cells)
  if m.column == 0 && ahead cells == '%' then
    let l ← l.atMargin m
    let (kind, rest) ← readDirective (cells.drop 1)
    return (l.push kind m (here rest), rest)
  else if atDocumentSign '-' cells then (← l.atMargin m).sign .documentStart 3 cells
  else if atDocumentSign '.' cells then (← l.atMargin m).sign .documentEnd 3 cells
  else
    match ahead cells with
    | '[' => l.flowStart .listStart cells
    | '\x7b' => l.flowStart .mappingStart cells
    | ']' => l.flowEnd .listEnd cells
    | '\x7d' => l.flowEnd .mappingEnd cells
    | ',' => l.comma cells
    | '*' =>
      let (name, rest) ← readName (cells.drop 1)
      l.word cells (.aliasOf name) rest
    | '&' =>
      let (name, rest) ← readName (cells.drop 1)
      l.word cells (.anchor name) rest
    | '!' =>
      let (kind, rest) ← readTag l.inFlow cells
      l.word cells kind rest
    | '\'' => l.quoted '\'' cells
    | '"' => l.quoted '"' cells
    | c =>
      if c == '-' && isAlone then l.item cells
      else if c == '?' && (l.inFlow || isAlone) then l.key cells
      else if c == ':' && (l.inFlow || isAlone) then l.value cells
      else if (c == '|' || c == '>') && !l.inFlow then l.block (c == '|') cells
      else if l.startsPlain cells then l.plain cells
      else failAt .noToken cells

/-- Ends the stream, on a line of its own. -/
private def finish (l : Layout) (m : Mark) : Except SyntaxFault (Array Token) := do
  let m := if m.column = 0 then m else ⟨m.index, m.line + 1, 0⟩
  let l ← (l.closeBlocks 0 m).dropKey
  return l.tokens.push ⟨.streamEnd, m, m⟩

/-- Reads at most `fuel` tokens and the end of the stream. -/
def readTokens : Nat → Layout → List Cell → Except SyntaxFault (Array Token)
  | 0, _, cells => failAt .noToken cells
  | fuel + 1, l, cells => do
    let (allowsKey, cells) := skipToToken l.inFlow l.allowsKey false cells
    let m := here cells
    let l ← { l with allowsKey }.dropStaleKeys m
    let l := l.closeBlocks (m.column + 1) m
    if ahead cells == '\x00' then l.finish m
    else
      let (l, cells) ← l.readToken cells
      readTokens fuel l cells

end Layout

/-- The tokens of a text. -/
def tokensOf (text : String) : Except SyntaxFault (Array Token) :=
  let cells := cellsOf text
  match cells.dropLast.find? fun c => !isAllowed c.char with
  | some c => .error ⟨.controlCharacter, c.mark⟩
  | none => Layout.readTokens cells.length {} cells

end SchemaSieve.Yaml
