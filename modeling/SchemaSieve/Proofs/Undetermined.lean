import Mathlib.Tactic
import SchemaSieve.Proofs.Inclusion

/-!
# Nodes that cannot be decided

Nodes of a live tree may stand in any order. The path by which one is decided has, for each kind of
object above it, the name of the nearest node of that kind that has a name (`ofLinks_eq_nearest?`).
So a node is undetermined exactly if it has no name, stands where its kind may not, or is a column
and no table above it has a name (`Grown.undetermined_iff`). The table of a column may itself lack
a name: if it stands in another table, the column is taken for one of that table
(`innerTable_included`).
-/

namespace SchemaSieve

/-- The kinds under which an object may stand; `none` is the top level. -/
def ObjectKind.places : ObjectKind → List (Option ObjectKind)
  | .catalog => [none]
  | .schema => [none, some .catalog]
  | .table | .procedure => [none, some .catalog, some .schema]
  | .column => [some .table]

theorem ObjectKind.canAppearUnder_iff {kind : ObjectKind} {parent : Option ObjectKind} :
    kind.canAppearUnder parent = true ↔ parent ∈ kind.places := by
  cases kind <;> simp [canAppearUnder, places, or_assoc]

namespace LiveTree

variable {t : LiveTree} {id : Nat} {kind : ObjectKind}

/-- The name of a node, if it is of a kind and has one. -/
def nameAt? (t : LiveTree) (kind : ObjectKind) (id : Nat) : Option String :=
  (t.link? id).bind fun l => if l.kind = kind then some l.name else none

/-- The name of the nearest node above a node that is of a kind and has one. -/
def nearest? (t : LiveTree) (kind : ObjectKind) (id : Nat) : Option String :=
  (t.ancestors id).findSome? (t.nameAt? kind)

theorem nameAt?_of_node? {name : Option String} {kind' : ObjectKind}
    (hn : t.node? id = some ⟨kind', name⟩) :
    t.nameAt? kind id = if kind' = kind then Text.nonBlank name else none := by
  rcases hname : Text.nonBlank name with _ | n <;> simp [nameAt?, link?, hn, hname]

/-- Nothing is the nearest exactly if all nodes of the kind lack a name. -/
theorem nearest?_eq_none_iff :
    t.nearest? kind id = none ↔ ∀ a ∈ t.ancestors id, ∀ name,
      t.node? a = some ⟨kind, name⟩ → Text.nonBlank name = none := by
  rw [nearest?, List.findSome?_eq_none_iff]
  refine forall₂_congr fun a _ => ⟨fun h name hn => ?_, fun h => ?_⟩
  · rw [nameAt?_of_node? hn, if_pos rfl] at h
    exact h
  · rcases hn : t.node? a with _ | ⟨kind', name⟩
    · simp [nameAt?, link?, hn]
    · rw [nameAt?_of_node? hn]
      split_ifs with hk
      · exact h name (hk ▸ hn)
      · rfl

/-- The nearest is the parent if that is of the kind and has a name. -/
theorem nearest?_of_parent? (hf : t.forest.Linked) {p : Nat} {name : String}
    (hp : t.parent? id = some p) (hn : t.node? p = some ⟨kind, some name⟩)
    (hname : Text.isBlank name = false) : t.nearest? kind id = some name := by
  have hfirst : t.nameAt? kind p = some name := by
    rw [nameAt?_of_node? hn, if_pos rfl, Text.nonBlank_some hname]
  rw [nearest?, ancestors, Forest.ancestors_of_parent? hf hp, List.findSome?_cons, hfirst]

/-- A node is decided by the nearest names above it. -/
theorem ofLinks_eq_nearest? (t : LiveTree) (id : Nat) (name : String) :
    ObjectPath.ofLinks name (t.linksAbove id)
      = ⟨t.nearest? .catalog id, t.nearest? .schema id, t.nearest? .table id, some name⟩ := by
  unfold linksAbove nearest?
  -- On the way up: what stands nearer is read later and has the last word.
  induction t.ancestors id with
  | nil => rfl
  | cons a above ih =>
    rw [List.reverse_cons, List.filterMap_append, ObjectPath.ofLinks, List.foldl_append,
      ← ObjectPath.ofLinks, ih]
    rcases hl : t.link? a with _ | ⟨kind, n⟩
    · simp [nameAt?, hl]
    · cases kind <;> simp [nameAt?, hl]

theorem decide_eq_nearest? {node : LiveNode} {name : String}
    (hname : Text.nonBlank node.name = some name) (hplace : t.parentKind? id ∈ node.kind.places)
    (s : Sieve) :
    t.decide s id node = s.decide
      ⟨t.nearest? .catalog id, t.nearest? .schema id, t.nearest? .table id, some name⟩
      node.kind := by
  rw [← ofLinks_eq_nearest?]
  simp only [decide, hname, if_pos (ObjectKind.canAppearUnder_iff.2 hplace)]

theorem nonBlank_nearest? (t : LiveTree) (kind : ObjectKind) (id : Nat) :
    Text.nonBlank (t.nearest? kind id) = t.nearest? kind id := by
  rcases h : t.nearest? kind id with _ | name
  · rfl
  · obtain ⟨a, -, ha⟩ := List.exists_of_findSome?_eq_some h
    obtain ⟨l, hl, hname⟩ := Option.bind_eq_some_iff.1 ha
    obtain ⟨node, -, hl⟩ := Option.bind_eq_some_iff.1 hl
    obtain ⟨n, hn, hl⟩ := Option.bind_eq_some_iff.1 hl
    obtain rfl := Option.some.inj hl
    split_ifs at hname
    obtain rfl := Option.some.inj hname
    exact Text.nonBlank_some (Text.nonBlank_eq_some_iff.1 hn).2

/-- A decision about a node fails for want of a name, for its place, or because no table above a
column has a name. -/
theorem ofResult_decide_eq_undetermined_iff {node : LiveNode} {s : Sieve} :
    Membership.ofResult (t.decide s id node) = .undetermined ↔
      Text.nonBlank node.name = none ∨ t.parentKind? id ∉ node.kind.places ∨
        node.kind = .column ∧ t.nearest? .table id = none := by
  rcases hname : Text.nonBlank node.name with _ | name
  · simp [decide, hname, Membership.ofResult]
  · by_cases hplace : t.parentKind? id ∈ node.kind.places
    · have hpresent : Text.nonBlank (some name) = some name :=
        Text.nonBlank_some (Text.nonBlank_eq_some_iff.1 hname).2
      rw [decide_eq_nearest? hname hplace, Sieve.ofResult_decide_eq_undetermined_iff]
      simp only [hpresent, nonBlank_nearest?, reduceCtorEq, false_or, hplace, not_true_eq_false]
    · have hcan : ¬ node.kind.canAppearUnder (t.parentKind? id) = true :=
        fun hcan => hplace (ObjectKind.canAppearUnder_iff.1 hcan)
      simp [decide, hname, hcan, hplace, Membership.ofResult]

namespace Grown

/-- Which nodes are undetermined, and by which names the others are decided. -/
theorem undetermined_iff (ht : t.Grown) (s : Sieve) (shapes : List Shape) {node : LiveNode}
    (hn : t.node? id = some node) :
    ((t.reconcile s shapes).membership? id = some .undetermined ↔
      Text.nonBlank node.name = none ∨ t.parentKind? id ∉ node.kind.places ∨
        node.kind = .column ∧ ∀ a ∈ t.ancestors id, ∀ table,
          t.node? a = some ⟨.table, table⟩ → Text.nonBlank table = none) ∧
    ((t.reconcile s shapes).membership? id ≠ some .undetermined →
      (t.reconcile s shapes).membership? id = some .included ∨
        (t.reconcile s shapes).membership? id = some .excluded) ∧
    ∀ name, Text.nonBlank node.name = some name → t.parentKind? id ∈ node.kind.places →
      (t.reconcile s shapes).membership? id = some (Membership.ofResult (s.decide
        ⟨t.nearest? .catalog id, t.nearest? .schema id, t.nearest? .table id, some name⟩
        node.kind)) ∧
      ∀ p table, t.parent? id = some p → t.node? p = some ⟨.table, some table⟩ →
        Text.isBlank table = false → t.nearest? .table id = some table := by
  obtain ⟨hlinked, hcomplete⟩ := ht.linked_and_complete
  rw [membership?_eq hlinked hcomplete s shapes hn]
  refine ⟨?_, fun hne => ?_, fun name hname hplace => ⟨?_, fun p table hp htable hblank => ?_⟩⟩
  · rw [Option.some.injEq, ofResult_decide_eq_undetermined_iff, nearest?_eq_none_iff]
  · rcases hm : Membership.ofResult (t.decide s id node)
    · exact .inl rfl
    · exact .inr rfl
    · exact absurd (congrArg some hm) hne
  · rw [decide_eq_nearest? hname hplace]
  · exact nearest?_of_parent? hlinked hp htable hblank

end Grown

/-- A table with a column in it, and between the two a table without a name. -/
def innerTable : LiveTree :=
  ((empty.plant none .table (some "ORDERS")).plant (some 0) .table none).plant
    (some 1) .column (some "ID")

theorem innerTable_grown : innerTable.Grown :=
  ((Grown.empty.plant rfl _ _).plant rfl _ _).plant rfl _ _

/-- The column is decided, by the name of the outer table. -/
theorem undetermined_iff_innerTable :
    innerTable.Grown ∧ innerTable.node? 2 = some ⟨.column, some "ID"⟩ ∧
      innerTable.parentKind? 2 ∈ ObjectKind.places .column ∧
      innerTable.nearest? .table 2 = some "ORDERS" ∧
      ∀ s shapes, (innerTable.reconcile s shapes).membership? 2
        = some (Membership.ofResult (s.decide ⟨none, none, some "ORDERS", some "ID"⟩ .column)) := by
  have hn : innerTable.node? 2 = some ⟨.column, some "ID"⟩ := by decide
  have hplace : innerTable.parentKind? 2 ∈ ObjectKind.places .column := by decide
  refine ⟨innerTable_grown, hn, hplace, by decide, fun s shapes => ?_⟩
  exact ((innerTable_grown.undetermined_iff s shapes hn).2.2 "ID" (by decide) hplace).1

/-- Its own table has no name, and yet it is not undetermined. -/
theorem innerTable_included :
    innerTable.Grown ∧ innerTable.parent? 2 = some 1 ∧ innerTable.node? 1 = some ⟨.table, none⟩ ∧
      innerTable.node? 2 = some ⟨.column, some "ID"⟩ ∧
      (innerTable.reconcile RuleTree.empty.compile.sieve []).membership? 2 = some .included := by
  refine ⟨innerTable_grown, by decide, by decide, by decide, by decide +kernel⟩

end LiveTree

end SchemaSieve
