import SchemaSieve.Reconcile.Annotation
import SchemaSieve.Text.Json

/-!
# Listings

An annotated tree for readers: as text, with the objects in the order of a walk over the live tree
that counts how deep it is, or as JSON, with the objects in the order of their numbers. Both may be
kept to the objects of one membership; the walk goes below the others as well.
-/

namespace SchemaSieve

open Text (Json)

/-- An object in a listing and how many objects it stands below. -/
structure ListedNode where
  node : AnnotatedNode
  depth : Nat
  deriving DecidableEq

namespace LiveTree

/-- At most `fuel` visits of a walk, each with its depth. The first of the nodes that wait is
visited, and its children wait, one step deeper, before the others. -/
def visitsWithin (t : LiveTree) : Nat → List (Nat × Nat) → List (Nat × Nat)
  | 0, _ | _, [] => []
  | fuel + 1, (id, depth) :: waiting =>
    (id, depth) :: t.visitsWithin fuel ((t.children id).map (·, depth + 1) ++ waiting)

/-- The visits of a walk from the roots. Each node is visited once, so the bound cuts nothing
off. -/
def visits (t : LiveTree) : List (Nat × Nat) := t.visitsWithin t.size (t.roots.map (·, 0))

end LiveTree

namespace AnnotatedTree

/-- Whether a node is kept in a listing of one membership, or of all. -/
def keeps (only : Option Membership) (n : AnnotatedNode) : Bool := only.all (· == n.membership)

/-- The nodes in the order of their numbers. -/
def kept (t : AnnotatedTree) (only : Option Membership) : List AnnotatedNode :=
  t.nodes.filter (keeps only)

/-- The nodes in the order of the walk over the live tree. -/
def listed (t : AnnotatedTree) (live : LiveTree) (only : Option Membership) : List ListedNode :=
  live.visits.filterMap fun (id, depth) =>
    ((t.node? id).filter (keeps only)).map fun node => ⟨node, depth⟩

end AnnotatedTree

/-! ## Text -/

/-- The sign in front of an object. -/
def Membership.sign : Membership → String
  | included => "+"
  | excluded => "-"
  | undetermined => "?"

/-- The line of an object, with the rules that describe it if `rules` are given. -/
def ListedNode.line (e : ListedNode) (rules : Option RuleTree) : String :=
  let indent := String.ofList (List.replicate (2 * e.depth) ' ')
  let n := e.node
  let name := n.name.getD "<unnamed>"
  let described :=
    match rules with
    | none => ""
    | some t =>
      if n.matched.isEmpty then ""
      else
        let texts := (n.matched.filterMap t.node?).map RuleNode.text
        "  <- " ++ ", ".intercalate texts
  s!"{indent}{n.membership.sign} {n.kind.name} {name}" ++ described

namespace AnnotatedTree

/-- The lines about findings, behind an empty one. -/
def findingLines (t : AnnotatedTree) : List String :=
  if t.findings.isEmpty then []
  else
    ["", s!"⚠️  Warnings ({t.findings.length}):"] ++ t.findings.map fun f => "  " ++ f.message

/-- The line that counts the objects of each membership. -/
def countLine (t : AnnotatedTree) : String :=
  s!"{t.count .included} included, {t.count .excluded} excluded, " ++
    s!"{t.count .undetermined} undetermined"

/-- The lines of a listing: the objects, the findings and the counts. -/
def lines (t : AnnotatedTree) (live : LiveTree) (only : Option Membership)
    (rules : Option RuleTree) : List String :=
  (t.listed live only).map (·.line rules) ++ t.findingLines ++ ["", t.countLine]

end AnnotatedTree

/-! ## JSON -/

def AnnotatedNode.toJson (n : AnnotatedNode) : Json :=
  .mapping ([("id", .number n.id), ("kind", .text n.kind.name)] ++
    (if n.matched.isEmpty then [] else [("matches", .list (n.matched.map .number))]) ++
    [("membership", .text n.membership.name), ("name", .optional n.name)] ++
    (n.parent.map fun p => ("parent", Json.number p)).toList ++
    [("path", .text n.path)])

def Finding.toJson : Finding → Json
  | f@(.invalidPattern pattern location error) =>
    .mapping [("kind", .text f.category), ("location", .text location),
      ("message", .text error.message), ("pattern", .text pattern)]
  | f@(.malformedRule location fault) =>
    .mapping [("kind", .text f.category), ("location", .text location),
      ("reason", .text fault.reason)]
  | f@(.malformedObject path fault) =>
    .mapping [("kind", .text f.category), ("node", .text path), ("reason", .text fault.reason)]

/-- The nodes that are kept, and all findings. -/
def AnnotatedTree.toJson (t : AnnotatedTree) (only : Option Membership) : Json :=
  .mapping [("nodes", .list ((t.kept only).map AnnotatedNode.toJson)),
    ("warnings", .list (t.findings.map Finding.toJson))]

end SchemaSieve
