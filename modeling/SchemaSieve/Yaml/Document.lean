import SchemaSieve.Yaml.Node
import SchemaSieve.Yaml.Token.Stream

/-!
# From tokens to documents

`Document.parse` reads a text that holds one document. A text without any content is a document of
a blank node.
-/

namespace SchemaSieve.Yaml

/-- The tokens still to be read, and the anchors so far with their numbers. -/
structure Composition where
  tokens : List Token
  anchors : List (String × Nat) := []

abbrev Compose := StateT Composition (Except SyntaxFault)

namespace Compose

/-- The next token. -/
def peek : Compose Token := do
  match (← get).tokens with
  | t :: _ => return t
  | [] => return ⟨.streamEnd, {}, {}⟩

/-- Passes the next token. -/
def pass : Compose Unit := modify fun s => { s with tokens := s.tokens.drop 1 }

def fail {α : Type} (problem : Problem) (m : Mark) : Compose α := throw ⟨problem, m⟩

/-- Takes up an anchor and gives its number: that of a name is the count of the other names before
it. -/
def register (name : String) : Compose Nat := do
  let anchors := (← get).anchors
  let number := anchors.length
  modify fun s => { s with anchors := (name, number) :: anchors.filter (·.1 != name) }
  return number

/-- The anchor and the tag before a node, each at most once, with the place of the first. -/
structure Properties where
  start : Option Mark := none
  anchor : Option Nat := none
  tag : Option (String × String) := none

private def anchor (p : Properties) : Compose Properties := do
  let t ← peek
  match t.kind with
  | .anchor name =>
    pass
    return { p with start := p.start <|> some t.start, anchor := some (← register name) }
  | _ => return p

private def tag (p : Properties) : Compose Properties := do
  let t ← peek
  match t.kind with
  | .tag handle suffix =>
    pass
    return { p with start := p.start <|> some t.start, tag := some (handle, suffix) }
  | _ => return p

/-- The anchor and the tag before a node, in any order. -/
def properties : Compose Properties := do
  let p ← anchor {}
  if p.anchor.isSome then tag p else anchor (← tag p)

/-- The text of a tag, in which a handle stands for the start of the tag. -/
def resolveTag (handles : List (String × String)) (m : Mark) :
    Option (String × String) → Compose (Option String)
  | none => return none
  | some ("", suffix) => return some suffix
  | some (handle, suffix) =>
    match handles.lookup handle with
    | some lead => return some (lead ++ suffix)
    | none => fail .unknownHandle m

mutual

/-- A node. In a block, lists and mappings may be written by indentation; the value of a key may be a
list whose items stand as far out as the key. -/
def node (handles : List (String × String)) (inBlock looseItems : Bool) : Nat → Compose Node
  | 0 => do fail .noContent (← peek).start
  | fuel + 1 => do
    let t ← peek
    match t.kind with
    | .aliasOf name =>
      pass
      match (← get).anchors.lookup name with
      | some number => return .aliasOf ⟨t.start, none, none⟩ number
      | none => fail .unknownAnchor t.start
    | _ =>
      let p ← properties
      let t ← peek
      let m := p.start.getD t.start
      let tag ← resolveTag handles m p.tag
      let info : NodeInfo := ⟨m, tag, p.anchor⟩
      match t.kind with
      | .item =>
        if looseItems then return .list info (← items handles true fuel [])
        else content info t
      | .scalar style text =>
        pass
        return .scalar { info with tag := info.tag.filter (· != "!") } style text
      | .listStart =>
        pass
        return .list info (← flowItems handles true fuel [])
      | .mappingStart =>
        pass
        return .mapping info (← flowEntries handles true fuel [])
      | .blockList =>
        if inBlock then
          pass
          return .list info (← items handles false fuel [])
        else content info t
      | .blockMapping =>
        if inBlock then
          pass
          return .mapping info (← entries handles fuel [])
        else content info t
      | _ => content info t
where
  /-- The node where no content is written; it needs an anchor or a tag. -/
  content (info : NodeInfo) (t : Token) : Compose Node :=
    if info.tag.isSome || info.anchor.isSome then return .scalar info .plain ""
    else fail .noContent t.start

/-- The items of a list in a block, onto items in reverse. A loose list ends where no item follows. -/
def items (handles : List (String × String)) (loose : Bool) : Nat → List Node → Compose (List Node)
  | 0, _ => do fail .noItem (← peek).start
  | fuel + 1, done => do
    let t ← peek
    match t.kind with
    | .item =>
      pass
      let isEnd := match (← peek).kind with
        | .item | .blockEnd => true
        | .key | .value => loose
        | _ => false
      if isEnd then items handles loose fuel (.blank t.stop :: done)
      else items handles loose fuel ((← node handles true false fuel) :: done)
    | .blockEnd =>
      if loose then return done.reverse
      else
        pass
        return done.reverse
    | _ => if loose then return done.reverse else fail .noItem t.start

/-- The key or the value behind a sign, blank if nothing follows. -/
def entryPart (handles : List (String × String)) (sign : Token) : Nat → Compose Node
  | 0 => do fail .noKey (← peek).start
  | fuel + 1 => do
    match (← peek).kind with
    | .key | .value | .blockEnd => return .blank sign.stop
    | _ => node handles true true fuel

/-- The entries of a mapping in a block, onto entries in reverse. -/
def entries (handles : List (String × String)) :
    Nat → List (Node × Node) → Compose (List (Node × Node))
  | 0, _ => do fail .noKey (← peek).start
  | fuel + 1, done => do
    let t ← peek
    match t.kind with
    | .key =>
      pass
      let k ← entryPart handles t fuel
      let t ← peek
      match t.kind with
      | .value =>
        pass
        let v ← entryPart handles t fuel
        entries handles fuel ((k, v) :: done)
      | _ => entries handles fuel ((k, .blank t.start) :: done)
    | .blockEnd =>
      pass
      return done.reverse
    | _ => fail .noKey t.start

/-- The items of a list in brackets, onto items in reverse; an item may be a single entry. -/
def flowItems (handles : List (String × String)) (first : Bool) :
    Nat → List Node → Compose (List Node)
  | 0, _ => do fail .openList (← peek).start
  | fuel + 1, done => do
    if (← peek).kind = .listEnd then
      pass
      return done.reverse
    else
      unless first do
        let t ← peek
        if t.kind = .comma then pass else fail .openList t.start
      let t ← peek
      match t.kind with
      | .listEnd =>
        pass
        return done.reverse
      | .key =>
        pass
        let n ← singleEntry handles t.start fuel
        flowItems handles false fuel (n :: done)
      | _ => flowItems handles false fuel ((← node handles false false fuel) :: done)

/-- The mapping of one entry that stands as an item in brackets. Where its key is missing, the sign
behind the place of the key is passed. -/
def singleEntry (handles : List (String × String)) (m : Mark) : Nat → Compose Node
  | 0 => do fail .openList (← peek).start
  | fuel + 1 => do
    let t ← peek
    let k ← match t.kind with
      | .value | .comma | .listEnd =>
        pass
        pure (.blank t.stop)
      | _ => node handles false false fuel
    let t ← peek
    if t.kind = .value then
      pass
      let t ← peek
      let v ← match t.kind with
        | .comma | .listEnd => pure (.blank t.start)
        | _ => node handles false false fuel
      return .mapping ⟨m, none, none⟩ [(k, v)]
    else return .mapping ⟨m, none, none⟩ [(k, .blank t.start)]

/-- The entries of a mapping in braces, onto entries in reverse. -/
def flowEntries (handles : List (String × String)) (first : Bool) :
    Nat → List (Node × Node) → Compose (List (Node × Node))
  | 0, _ => do fail .openMapping (← peek).start
  | fuel + 1, done => do
    if (← peek).kind = .mappingEnd then
      pass
      return done.reverse
    else
      unless first do
        let t ← peek
        if t.kind = .comma then pass else fail .openMapping t.start
      let t ← peek
      match t.kind with
      | .mappingEnd =>
        pass
        return done.reverse
      | .key =>
        pass
        let k ← flowPart handles true fuel
        let t ← peek
        if t.kind = .value then
          pass
          let v ← flowPart handles false fuel
          flowEntries handles false fuel ((k, v) :: done)
        else flowEntries handles false fuel ((k, .blank t.start) :: done)
      | _ =>
        let k ← node handles false false fuel
        flowEntries handles false fuel ((k, .blank (← peek).start) :: done)

/-- A key or a value in braces, blank if nothing follows. -/
def flowPart (handles : List (String × String)) (isKey : Bool) : Nat → Compose Node
  | 0 => do fail .openMapping (← peek).start
  | fuel + 1 => do
    let t ← peek
    match t.kind with
    | .comma | .mappingEnd => return .blank t.start
    | .value => if isKey then return .blank t.start else node handles false false fuel
    | _ => node handles false false fuel

end

/-- The directives before a document, as handles of tags with what they stand for. The result tells
also whether there was one that names a version. -/
def directives : Nat → Bool → List (String × String) → Compose (List (String × String))
  | 0, _, _ => do fail .badDirective (← peek).start
  | fuel + 1, hasVersion, handles => do
    let t ← peek
    match t.kind with
    | .version major minor =>
      if hasVersion then fail .repeatedDirective t.start
      else if major = 1 ∧ (minor = 1 ∨ minor = 2) then
        pass
        directives fuel true handles
      else fail .badVersion t.start
    | .tagHandle handle lead =>
      if (handles.lookup handle).isSome then fail .repeatedDirective t.start
      else
        pass
        directives fuel hasVersion ((handle, lead) :: handles)
    | _ => return handles

/-- The handles that need no directive. -/
def defaultHandles : List (String × String) := [("!", "!"), ("!!", "tag:yaml.org,2002:")]

/-- The node of a document behind its sign, blank if nothing follows. -/
def documentNode (handles : List (String × String)) (fuel : Nat) : Compose Node := do
  let t ← peek
  match t.kind with
  | .version .. | .tagHandle .. | .documentStart | .documentEnd | .streamEnd =>
    return .blank t.start
  | _ => node handles true false fuel

/-- The outermost node of the first document. -/
def firstNode (fuel : Nat) : Compose Node := do
  let t ← peek
  match t.kind with
  | .streamEnd => return .blank t.start
  | .version .. | .tagHandle .. | .documentStart =>
    let handles ← directives fuel false []
    let t ← peek
    if t.kind = .documentStart then
      pass
      documentNode (handles ++ defaultHandles) fuel
    else fail .noDocumentStart t.start
  | _ => node defaultHandles true false fuel

/-- Passes the signs that end documents. -/
def passEnds : Nat → Compose Unit
  | 0 => return ()
  | fuel + 1 => do
    if (← peek).kind = .documentEnd then
      pass
      passEnds fuel

/-- The only document of the tokens. -/
def document (fuel : Nat) : Compose Document := do
  let root ← firstNode fuel
  passEnds fuel
  let t ← peek
  match t.kind with
  | .streamEnd => return .of root
  | .version .. | .tagHandle .. | .documentStart => fail .secondDocument t.start
  | _ => fail .noDocumentStart t.start

end Compose

/-- The document that a text holds. -/
def Document.parse (text : String) : Except SyntaxFault Document := do
  let tokens := (← tokensOf text).toList
  let (d, _) ← (Compose.document (4 * tokens.length + 4)).run ⟨tokens, []⟩
  return d

end SchemaSieve.Yaml
