import SchemaSieve.Reconcile.Annotation

/-!
# Remarks about rules

What checking says about rules: the findings of compiling them, the findings about the objects of a
snapshot, and the rules that describe no object in it.
-/

namespace SchemaSieve

/-- How much a remark weighs. Only an error makes rules unfit for use. -/
inductive Severity where
  | error
  | warning
  | info
  deriving DecidableEq

/-- Something that checking says, with the file and the place in it that it is about. -/
structure Remark where
  severity : Severity
  category : String
  message : String
  file : Option String := none
  location : Option String := none
  deriving DecidableEq

namespace Remark

/-- A finding as a remark. A pattern that does not compile is an error; all else is only left
out. -/
def ofFinding (file : Option String) (f : Finding) : Remark :=
  match f with
  | .invalidPattern pattern location error =>
    ⟨.error, f.category, s!"'{pattern}' is not a valid pattern: {error.message}", file, location⟩
  | .malformedRule location fault =>
    ⟨.warning, f.category, s!"{fault.reason} (ignored)", file, location⟩
  | .malformedObject path fault => ⟨.warning, f.category, fault.reason, file, path⟩

end Remark

namespace RuleTree

/-- Remarks from compiling rules that come from a file. -/
def compileRemarks (t : RuleTree) (file : Option String) : List Remark :=
  t.compile.findings.map (Remark.ofFinding file) ++
    if t.isEmpty then
      [⟨.info, "empty_rules", "no rules defined; every object is included", file, none⟩]
    else []

/-- The nodes with a label that describe no node of an annotated tree. -/
def unused (t : RuleTree) (annotated : AnnotatedTree) : List Nat :=
  t.ids.filter fun id =>
    ((t.node? id).bind RuleNode.label?).isSome &&
      !annotated.nodes.any (·.matched.contains id)

/-- Remarks from setting rules that come from a file against a live tree. -/
def liveRemarks (t : RuleTree) (file : Option String) (live : LiveTree) : List Remark :=
  let annotated := live.reconcile t.compile.sieve t.shapes
  annotated.findings.map (Remark.ofFinding none) ++
    (t.unused annotated).filterMap fun id =>
      (t.node? id).map fun node =>
        ⟨.info, "unused_rule", s!"{node.text} matches nothing in the snapshot", file,
          some (t.location id)⟩

/-- All remarks about rules, with a snapshot or without. -/
def remarks (t : RuleTree) (file : Option String) (live : Option LiveTree) : List Remark :=
  t.compileRemarks file ++
    match live with
    | some live => t.liveRemarks file live
    | none =>
      [⟨.info, "snapshot", "no snapshot configured; skipped reconciliation checks", none, none⟩]

end RuleTree

end SchemaSieve
