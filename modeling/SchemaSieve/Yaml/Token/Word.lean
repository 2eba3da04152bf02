import SchemaSieve.Yaml.Token

/-!
# Reading names, tags and directives

Anchors and aliases, the tags of nodes, and the directives before a document.
-/

namespace SchemaSieve.Yaml

/-! ## Anchors and aliases -/

/-- The name behind the sign of an anchor or an alias. -/
def readName (cells : List Cell) : Except SyntaxFault (String × List Cell) :=
  let (name, rest) := spanCells isNameChar cells
  let next := ahead rest
  if !name.isEmpty && (endsWord next || ['?', ':', ',', ']', '\x7d', '%', '@', '`'].contains next) then
    .ok (String.ofList name, rest)
  else failAt .badName rest

/-! ## Tags -/

/-- The characters of a tag; a verbatim tag may hold some more. -/
def isTagChar (verbatim : Bool) (c : Char) : Bool :=
  isNameChar c ||
    [';', '/', '?', ':', '@', '&', '=', '+', '$', '.', '%', '!', '~', '*', '\'', '(', ')'].contains c ||
    (verbatim && [',', '[', ']'].contains c)

private def hexValue? (c : Char) : Option Nat :=
  if c.isDigit then some (c.toNat - 48)
  else if 'a' ≤ c ∧ c ≤ 'f' then some (c.toNat - 87)
  else if 'A' ≤ c ∧ c ≤ 'F' then some (c.toNat - 55)
  else none

/-- The bytes of a tag; a percent sign and two hexadecimal digits write one. -/
def tagBytes? : List Char → Option (List UInt8)
  | [] => some []
  | '%' :: a :: b :: rest => do
    let n := (← hexValue? a) * 16 + (← hexValue? b)
    return UInt8.ofNat n :: (← tagBytes? rest)
  | '%' :: _ => none
  | c :: rest => do return (String.singleton c).toUTF8.toList ++ (← tagBytes? rest)

/-- The text of a tag, with its percent signs resolved. -/
def tagText? (cs : List Char) : Option String := do
  String.fromUTF8? ⟨(← tagBytes? cs).toArray⟩

/-- The text of a tag at the next character. -/
def readTagText (verbatim : Bool) (cells : List Cell) :
    Except SyntaxFault (String × List Cell) :=
  let (cs, rest) := spanCells (isTagChar verbatim) cells
  match tagText? cs with
  | some text => .ok (text, rest)
  | none => failAt .badTag cells

/-- A handle such as `!name!` at the next character; the second sign may be missing. -/
def readHandle (cells : List Cell) : Except SyntaxFault (String × List Cell) :=
  if ahead cells != '!' then failAt .badTag cells
  else
    let (name, rest) := spanCells isNameChar (cells.drop 1)
    if ahead rest == '!' then .ok (String.ofList ('!' :: name ++ ['!']), rest.drop 1)
    else .ok (String.ofList ('!' :: name), rest)

/-- A tag that starts at the next character: verbatim, with a handle, or with the handle `!`. -/
def readTag (inFlow : Bool) (cells : List Cell) :
    Except SyntaxFault (TokenKind × List Cell) := do
  let (kind, rest) ←
    if aheadBy 1 cells == '<' then
      let (text, rest) ← readTagText true (cells.drop 2)
      if text.isEmpty || ahead rest != '>' then failAt .badTag rest
      else .ok (TokenKind.tag "" text, rest.drop 1)
    else
      let (handle, rest) ← readHandle cells
      if handle.length > 1 && handle.endsWith "!" then
        let (suffix, rest) ← readTagText false rest
        if suffix.isEmpty then failAt .badTag rest else .ok (TokenKind.tag handle suffix, rest)
      else
        let (suffix, rest) ← readTagText false (cells.drop 1)
        .ok (if suffix.isEmpty then TokenKind.tag "" "!" else .tag "!" suffix, rest)
  if endsWord (ahead rest) || (inFlow && ahead rest == ',') then return (kind, rest)
  failAt .badTag rest

/-! ## Directives -/

/-- A number of at most nine digits. -/
private def readNumber (cells : List Cell) : Except SyntaxFault (Nat × List Cell) :=
  let (digits, rest) := spanCells Char.isDigit cells
  if digits.isEmpty || digits.length > 9 then failAt .badDirective cells
  else .ok (digits.foldl (fun n c => n * 10 + (c.toNat - 48)) 0, rest)

private def skipBlanks (cells : List Cell) : List Cell := (spanCells isBlank cells).2

private def readVersion (cells : List Cell) : Except SyntaxFault (TokenKind × List Cell) := do
  let (major, rest) ← readNumber (skipBlanks cells)
  if ahead rest != '.' then failAt .badDirective rest
  else
    let (minor, rest) ← readNumber (rest.drop 1)
    return (.version major minor, rest)

private def readTagHandle (cells : List Cell) : Except SyntaxFault (TokenKind × List Cell) := do
  let (handle, rest) ← readHandle (skipBlanks cells)
  if handle != "!" && !(handle.length > 1 && handle.endsWith "!") then failAt .badDirective rest
  else if !isBlank (ahead rest) then failAt .badDirective rest
  else
    let (lead, rest) ← readTagText true (skipBlanks rest)
    if lead.isEmpty || !endsWord (ahead rest) then failAt .badDirective rest
    else return (.tagHandle handle lead, rest)

/-- A directive behind its sign, up to the end of its line. -/
def readDirective (cells : List Cell) : Except SyntaxFault (TokenKind × List Cell) := do
  let (name, rest) := spanCells isNameChar cells
  if !endsWord (ahead rest) then failAt .badDirective rest
  else
    let (kind, rest) ←
      match String.ofList name with
      | "YAML" => readVersion rest
      | "TAG" => readTagHandle rest
      | _ => failAt .badDirective rest
    let rest := skipBlanks rest
    let rest := if ahead rest == '#' then (spanCells (fun c => !endsLine c) rest).2 else rest
    if isBreak (ahead rest) then return (kind, rest.drop 1)
    else if ahead rest == '\x00' then return (kind, rest)
    else failAt .badDirective rest

end SchemaSieve.Yaml
