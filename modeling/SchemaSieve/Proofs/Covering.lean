import Mathlib.Tactic
import SchemaSieve.Proofs.Inclusion
import SchemaSieve.Proofs.Walks

/-!
# Reconciling covers a live tree

Reconciling a live tree gives one annotated node for each node, at the position of its number, and
one finding for each node that is undetermined, in the order of a walk from the roots (`Covered`).
What it says of a node depends on this node and on those above it alone: a tree that extends another
has the same annotations for all that stood before (`annotate_of_extends`).
-/

namespace SchemaSieve

namespace LiveTree

variable {t t' : LiveTree} {id : Nat}

/-! ## Trees that extend others -/

section

variable (hf : t.forest.Linked) (hext : t.forest.Extends t'.forest)
  (hid : t.forest.contains id = true)

include hext hid in
theorem link?_of_extends : t'.link? id = t.link? id := by
  have hnode : t'.node? id = t.node? id := hext.value?_eq hid
  rw [link?, link?, hnode]

include hf hext hid in
theorem displayPath_of_extends : t'.displayPath id = t.displayPath id := by
  have hline : t'.forest.lineage id = t.forest.lineage id := by
    rw [Forest.lineage, Forest.lineage, hext.ancestors_eq hf hid]
  have hnodes : ∀ a ∈ t.forest.lineage id, t'.node? a = t.node? a := by
    intro a ha
    refine hext.value?_eq ?_
    rw [Forest.lineage, List.mem_append, List.mem_reverse, List.mem_singleton] at ha
    rcases ha with ha | rfl
    · exact (hf.ancestor id a ha).2
    · exact hid
  rw [displayPath, displayPath, hline, List.filterMap_congr hnodes]

include hf hext hid in
theorem linksAbove_of_extends : t'.linksAbove id = t.linksAbove id := by
  have habove : t'.ancestors id = t.ancestors id := hext.ancestors_eq hf hid
  rw [linksAbove, linksAbove, habove]
  refine List.filterMap_congr fun a ha => link?_of_extends hext ?_
  exact (hf.ancestor id a (List.mem_reverse.1 ha)).2

include hf hext hid in
theorem parentKind?_of_extends : t'.parentKind? id = t.parentKind? id := by
  have hparent : t'.parent? id = t.parent? id := hext.parent?_eq hid
  rw [parentKind?, parentKind?, hparent]
  rcases hp : t.parent? id with _ | p
  · rfl
  · have hnode : t'.node? p = t.node? p := hext.value?_eq (hf.parent hp).2
    rw [Option.bind_some, Option.bind_some, hnode]

include hf hext hid in
/-- What is said of a node that stood before is said of it again. -/
theorem annotate_of_extends (s : Sieve) (shapes : List Shape) (node : LiveNode) :
    t'.annotate s shapes id node = t.annotate s shapes id node := by
  have hparent : t'.parent? id = t.parent? id := hext.parent?_eq hid
  have hdecide : ∀ above, t'.decide s id node above = t.decide s id node above := by
    intro above
    simp only [decide, displayPath_of_extends hf hext hid, parentKind?_of_extends hf hext hid]
  simp only [annotate, linksAbove_of_extends hf hext hid, hdecide, hparent,
    link?_of_extends hext hid, displayPath_of_extends hf hext hid]

end

/-! ## Findings -/

section

variable (hf : t.forest.Linked) (hfull : ∀ id, id < t.size → t.forest.contains id = true)
  (s : Sieve) (shapes : List Shape)

include hf hfull

/-- The nodes that are given a membership, by their numbers. -/
theorem ids_withMembership (m : Membership) :
    ((t.reconcile s shapes).withMembership m).map (·.id)
      = t.ids.filter fun id => (t.reconcile s shapes).membership? id == some m := by
  have hnodes : (t.reconcile s shapes).nodes = t.ids.filterMap (t.annotation? s shapes) := by
    rw [reconcile_eq hf]
  rw [AnnotatedTree.withMembership, hnodes, List.filter_filterMap, List.map_filterMap,
    ← List.filterMap_eq_filter]
  refine List.filterMap_congr fun id hid => ?_
  obtain ⟨node, hn⟩ := Forest.contains_iff_value?.1 (Forest.mem_ids.1 hid)
  have hnode : t.node? id = some node := hn
  rw [annotation?, hnode, Option.map_some, Option.filter_some, membership_annotate, Option.guard,
    membership?_eq hf hfull s shapes hnode]
  by_cases hm : Membership.ofResult (t.decide s id node) = m
  · simp [hm, annotate]
  · simp [hm]

/-- A node is undetermined exactly if a finding is kept of it. -/
theorem membership?_eq_undetermined_iff (id : Nat) :
    (t.reconcile s shapes).membership? id = some .undetermined ↔
      (t.finding? s id).isSome = true := by
  rcases hn : t.node? id with _ | node
  · simp [AnnotatedTree.membership?, node?_reconcile hf hfull, annotation?, finding?, hn]
  · rw [membership?_eq hf hfull s shapes hn, finding?, hn, Option.bind_some]
    rcases t.decide s id node with e | d
    · simp [Membership.ofResult]
    · cases d <;> simp [Membership.ofResult, Membership.ofDecision]

end

/-- A finding of a node is what kept it from being decided. -/
theorem finding?_eq_some_iff {s : Sieve} {e : Finding} :
    t.finding? s id = some e ↔ ∃ node, t.node? id = some node ∧ t.decide s id node = .error e := by
  rw [finding?, Option.bind_eq_some_iff]
  refine exists_congr fun node => and_congr_right fun _ => ?_
  rcases t.decide s id node with e' | d <;> simp

/-! ## Every node once -/

/-- How reconciling covers a tree. However many visits are allowed, the walk ends with no slot left
empty; each node is visited once and said of at the position of its number, and each undetermined
node is once among the findings, in the order of the walk from the roots. A node that is added
changes nothing about those that stand. -/
structure Covered (t : LiveTree) (s : Sieve) (shapes : List Shape) : Prop where
  ended : ∀ fuel, t.size ≤ fuel → Reconciling.run t s shapes fuel (.start t)
    = ⟨[], ((t.reconcile s shapes).nodes.map some).toArray, (t.reconcile s shapes).findings⟩
  size : (t.reconcile s shapes).nodes.length = t.size
  nodes : ∀ i < t.size, ∃ node a, t.node? i = some node ∧
    (t.reconcile s shapes).nodes[i]? = some a ∧ a.id = i ∧ a.kind = node.kind ∧
      a.name = node.name ∧ a.parent = t.parent? i
  walk : t.forest.Walk t.roots t.forest.preorder ∧ t.forest.preorder.Perm (List.range t.size)
  findings : List.Forall₂
    (fun id e => ∃ node, t.node? id = some node ∧ t.decide s id node = .error e)
    (t.forest.preorder.filter fun id => (t.reconcile s shapes).membership? id == some .undetermined)
    (t.reconcile s shapes).findings
  count : (t.reconcile s shapes).findings.length = (t.reconcile s shapes).count .undetermined
  kept : ∀ {place kind name id t'}, t.add? place kind name = some (id, t') → ∀ i < t.size,
    (t'.reconcile s shapes).nodes[i]? = (t.reconcile s shapes).nodes[i]?

/-- However many visits are allowed, every slot is filled and then nothing waits. -/
theorem run_eq (hf : t.forest.Linked) (hfull : ∀ id, id < t.size → t.forest.contains id = true)
    (s : Sieve) (shapes : List Shape) {fuel : Nat} (hfuel : t.size ≤ fuel) :
    Reconciling.run t s shapes fuel (.start t)
      = ⟨[], ((t.reconcile s shapes).nodes.map some).toArray, (t.reconcile s shapes).findings⟩ := by
  obtain ⟨hdone, hwaiting⟩ := Reconciling.done_preorder hf s shapes hfuel
  have hslots := hdone.toList_slots (Forest.perm_preorder hf)
  have hfilled : (List.range t.size).map (t.annotation? s shapes)
      = (t.reconcile s shapes).nodes.map some := by
    rw [nodes_reconcile hf hfull, List.map_map]
    refine List.map_congr_left fun i hi => ?_
    obtain ⟨node, hn⟩ := Forest.contains_iff_value?.1 (hfull i (List.mem_range.1 hi))
    simp [annotation?, node?, hn]
  have hfindings :
      (t.reconcile s shapes).findings = t.forest.preorder.filterMap (t.finding? s) := by
    rw [reconcile_eq hf]
  rw [hfindings, ← hfilled, ← hslots, ← hdone.findings, ← hwaiting]

theorem forall₂_findings (hf : t.forest.Linked)
    (hfull : ∀ id, id < t.size → t.forest.contains id = true) (s : Sieve) (shapes : List Shape) :
    List.Forall₂ (fun id e => ∃ node, t.node? id = some node ∧ t.decide s id node = .error e)
      (t.forest.preorder.filter fun id =>
        (t.reconcile s shapes).membership? id == some .undetermined)
      (t.reconcile s shapes).findings := by
  have hundetermined : (t.forest.preorder.filter fun id =>
        (t.reconcile s shapes).membership? id == some .undetermined)
      = t.forest.preorder.filter fun id => (t.finding? s id).isSome := by
    refine List.filter_congr fun id _ => ?_
    rw [Bool.eq_iff_iff, beq_iff_eq, membership?_eq_undetermined_iff hf hfull]
  have hlist := forall₂_filter_filterMap (t.finding? s) t.forest.preorder
  rw [hundetermined, reconcile_eq hf]
  exact hlist.imp fun _ _ => finding?_eq_some_iff.1

/-- Adding a node leaves what is said of the others. -/
theorem getElem?_nodes_add (ht : t.Grown) (s : Sieve) (shapes : List Shape) {place : Option Nat}
    {kind : ObjectKind} {name : Option String} (hadd : t.add? place kind name = some (id, t'))
    {i : Nat} (hi : i < t.size) :
    (t'.reconcile s shapes).nodes[i]? = (t.reconcile s shapes).nodes[i]? := by
  obtain ⟨hlinked, hfull⟩ := ht.linked_and_complete
  obtain ⟨hlinked', hfull'⟩ := (Grown.add ht hadd).linked_and_complete
  have hext : t.forest.Extends t'.forest := by
    rw [add?] at hadd
    split_ifs at hadd
    obtain ⟨-, rfl⟩ := Prod.mk.inj (Option.some.inj hadd)
    exact .plant _ _ _
  have hnode : t'.node? i = t.node? i := hext.value?_eq (hfull i hi)
  rw [getElem?_nodes_reconcile hlinked hfull, getElem?_nodes_reconcile hlinked' hfull', annotation?,
    annotation?, hnode, funext (annotate_of_extends hlinked hext (hfull i hi) s shapes)]

/-- Reconciling covers every tree that grows node by node, whatever the rules. -/
theorem Grown.covered (ht : t.Grown) (s : Sieve) (shapes : List Shape) : t.Covered s shapes := by
  obtain ⟨hlinked, hfull⟩ := ht.linked_and_complete
  have hperm : t.forest.preorder.Perm t.ids := Forest.perm_preorder hlinked
  have hids := ids_withMembership hlinked hfull s shapes .undetermined
  have hfindings := forall₂_findings hlinked hfull s shapes
  refine ⟨fun fuel hfuel => run_eq hlinked hfull s shapes hfuel, ?_, fun i hi => ?_, ⟨Forest.walk_preorder hlinked, ?_⟩,
    hfindings, ?_, fun hadd i hi => getElem?_nodes_add ht s shapes hadd hi⟩
  · rw [nodes_reconcile hlinked hfull, List.length_map, List.length_range]
  · obtain ⟨node, hn⟩ := Forest.contains_iff_value?.1 (hfull i hi)
    refine ⟨node, t.annotate s shapes i node, hn, ?_, rfl, rfl, rfl, rfl⟩
    rw [getElem?_nodes_reconcile hlinked hfull, annotation?, show t.node? i = some node from hn,
      Option.map_some]
  · rwa [ids_eq_range hfull] at hperm
  · rw [← hfindings.length_eq, (hperm.filter _).length_eq, ← hids, List.length_map,
      AnnotatedTree.count]

/-- A column at the top that was found before the table in the catalog beside it, which has no
name. -/
def strayNodes : LiveTree :=
  ((empty.plant none .catalog (some "SALES")).plant none .column (some "ID")).plant
    (some 0) .table none

theorem covered_strayNodes :
    strayNodes.Grown ∧ strayNodes.Covered RuleTree.empty.compile.sieve [] ∧
      strayNodes.forest.preorder = [0, 2, 1] ∧
        (strayNodes.reconcile RuleTree.empty.compile.sieve []).findings.length = 2 := by
  have ht : strayNodes.Grown := ((Grown.empty.plant rfl _ _).plant rfl _ _).plant rfl _ _
  have hcovered := ht.covered RuleTree.empty.compile.sieve []
  exact ⟨ht, hcovered, by decide, hcovered.count.trans (by decide +kernel)⟩

end LiveTree

end SchemaSieve
