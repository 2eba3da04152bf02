import Mathlib.Tactic
import SchemaSieve.Proofs.Cutting
import SchemaSieve.Reconcile.Scaffold
import SchemaSieve.Rule.Document

/-!
# Rule trees that edits make

What each edit of a rule tree does when it is not refused is said once, by an inversion lemma
(`insert_eq_ok`, `relabel_eq_ok`, …). From these every edit keeps a tree `WellFormed`: the root
stands at number `0`, and every other node stands under one that was planted before it. So does
reading a document, hence every `Reachable` tree is well-formed.
-/

namespace SchemaSieve

namespace RuleTree

variable {t : RuleTree}

theorem mem_childNodes (hf : t.forest.Linked) {place id : Nat} {node : RuleNode} :
    (id, node) ∈ t.childNodes place ↔ t.parent? id = some place ∧ t.node? id = some node := by
  simp only [childNodes, List.mem_filterMap, Option.map_eq_some_iff, Prod.mk.injEq]
  constructor
  · rintro ⟨c, hc, n, hn, rfl, rfl⟩
    exact ⟨hf.mem_children.1 hc, hn⟩
  · rintro ⟨hp, hn⟩
    exact ⟨id, hf.mem_children.2 hp, node, hn, rfl, rfl⟩

/-- The nodes directly below a node, read off the slots. -/
theorem childNodes_eq (hf : t.forest.Linked) (place : Nat) :
    t.childNodes place = (List.range t.nextId).filterMap fun c => (t.forest.slot? c).bind fun s =>
      if s.parent = some place then some (c, s.value) else none := by
  have hchildren : t.children place
      = t.forest.ids.filter fun id => t.forest.parent? id == some place :=
    hf.under (some place)
  rw [childNodes, hchildren, Forest.ids, List.filterMap_filter, List.filterMap_filter]
  refine List.filterMap_congr fun c _ => ?_
  rcases hs : t.forest.slot? c with _ | s <;>
    simp [Forest.contains, Forest.parent?, node?, Forest.value?, hs]

/-! ## Looking for a node -/

theorem findChild?_eq_some {place id : Nat} {node : RuleNode}
    (h : t.findChild? place node = some id) :
    ∃ n, (id, n) ∈ t.childNodes place ∧ n.sameAs node = true := by
  obtain ⟨⟨c, n⟩, hc, rfl⟩ := Option.map_eq_some_iff.1 h
  have hsame := List.find?_some hc
  exact ⟨n, List.mem_of_find?_eq_some hc, hsame⟩

theorem findChild?_eq_none {place : Nat} {node : RuleNode}
    (h : t.findChild? place node = none) {id : Nat} {n : RuleNode}
    (hmem : (id, n) ∈ t.childNodes place) : n.sameAs node = false := by
  rw [findChild?, Option.map_eq_none_iff, List.find?_eq_none] at h
  simpa using h (id, n) hmem

/-! ## What edits do -/

theorem attach_eq_ok {parent id : Nat} {node : RuleNode} {t' : RuleTree}
    (h : t.attach parent node = .ok (id, t')) :
    t.forest.contains parent = true ∧ id = t.nextId ∧ t' = t.plant parent node := by
  unfold attach at h
  split_ifs at h with hc
  cases h
  exact ⟨hc, rfl, rfl⟩

theorem insert_eq_ok {parent id : Nat} {node : RuleNode} {t' : RuleTree}
    (h : t.insert parent node = .ok (id, t')) :
    ∃ holder, t.node? parent = some holder ∧ holder.canContain node = true ∧
      t.findChild? parent node = none ∧ id = t.nextId ∧ t' = t.plant parent node := by
  unfold insert at h
  rcases hn : t.node? parent with _ | holder <;> rw [hn] at h
  · simp at h
  · simp only at h
    split_ifs at h with hcan hdup
    obtain ⟨-, rfl, rfl⟩ := attach_eq_ok h
    simp only [Bool.or_eq_true, not_or, Option.not_isSome_iff_eq_none] at hdup
    exact ⟨holder, rfl, by simpa using hcan, hdup.2, rfl, rfl⟩

theorem getOrInsert_eq_ok {parent id : Nat} {node : RuleNode} {t' : RuleTree}
    (h : t.getOrInsert parent node = .ok (id, t')) :
    t.findChild? parent node = some id ∧ t' = t ∨ t.insert parent node = .ok (id, t') := by
  unfold getOrInsert at h
  rcases hf : t.findChild? parent node with _ | c <;> rw [hf] at h
  · exact .inr h
  · cases h
    exact .inl ⟨rfl, rfl⟩

theorem relabel_eq_ok {id : Nat} {label : String} {t' : RuleTree}
    (h : t.relabel id label = .ok t') :
    ∃ node renamed, t.node? id = some node ∧ node.withLabel? label = some renamed ∧
      t' = ⟨t.forest.replace id renamed⟩ := by
  unfold relabel at h
  rcases hn : t.node? id with _ | node <;> rw [hn] at h
  · simp at h
  · simp only at h
    split_ifs at h with hb
    rcases hw : node.withLabel? label with _ | renamed <;> rw [hw] at h
    · simp at h
    · rcases hs : t.surroundings? id with _ | ⟨holder, siblings⟩ <;> rw [hs] at h
      · cases h
        exact ⟨node, renamed, rfl, hw, rfl⟩
      · simp only at h
        split_ifs at h with hclash
        cases h
        exact ⟨node, renamed, rfl, hw, rfl⟩

theorem remove_eq_ok {id : Nat} {node : RuleNode} {t' : RuleTree}
    (h : t.remove id = .ok (node, t')) :
    id ≠ rootId ∧ t.node? id = some node ∧ t' = ⟨t.forest.remove id⟩ := by
  unfold remove at h
  split_ifs at h with hid
  rcases hn : t.node? id with _ | found <;> rw [hn] at h
  · simp at h
  · cases h
    exact ⟨hid, rfl, rfl⟩

theorem adopt_eq_ok {target id : Nat} {live : LiveTree} {polarity : Polarity} {new : Option Nat}
    {t' : RuleTree} (h : t.adopt target live id polarity = .ok (new, t')) :
    new = none ∧ t' = t ∨ ∃ place rule n, t.insert place rule = .ok (n, t') ∧ new = some n := by
  unfold adopt at h
  rcases hl : live.node? id with _ | node <;> rw [hl] at h
  · simp at h
  · simp only at h
    rcases hr : node.rule? polarity with _ | rule <;> rw [hr] at h
    · simp at h
    · simp only at h
      split_ifs at h
      rcases hn : t.node? target with _ | holder <;> rw [hn] at h
      · simp at h
      · simp only at h
        split at h
        · rename_i hi
          cases h
          exact .inr ⟨_, _, _, hi, rfl⟩
        · cases h
          exact .inl ⟨rfl, rfl⟩
        · simp at h

/-! ## Well-formed trees -/

/-- Whether the root stands where it has to and every other node under an older one. -/
structure WellFormed (t : RuleTree) : Prop where
  links : t.forest.Linked
  root : t.forest.slot? rootId = some ⟨none, .root⟩
  under : ∀ ⦃id : Nat⦄, t.forest.contains id = true → id ≠ rootId → ∃ p, t.parent? id = some p

namespace WellFormed

theorem node?_root (h : t.WellFormed) : t.node? rootId = some .root := by
  simp [node?, Forest.value?, h.root]

theorem parent?_root (h : t.WellFormed) : t.parent? rootId = none := by
  simp [parent?, Forest.parent?, h.root]

theorem contains_root (h : t.WellFormed) : t.forest.contains rootId = true :=
  Forest.contains_iff.2 ⟨_, h.root⟩

theorem empty : RuleTree.empty.WellFormed where
  links := by
    rw [RuleTree.empty]
    exact Forest.linked_empty.plant Forest.isPlace_none RuleNode.root
  root := by simp [RuleTree.empty, Forest.slot?_plant, rootId]
  under := by
    intro id hid hne
    rw [RuleTree.empty, Forest.contains_plant] at hid
    rcases hid with rfl | hid
    · exact absurd rfl hne
    · simp [Forest.contains, Forest.slot?_empty] at hid

theorem plant (h : t.WellFormed) {parent : Nat} (hp : t.forest.contains parent = true)
    (node : RuleNode) : (t.plant parent node).WellFormed where
  links := h.links.plant (Forest.isPlace_some.2 hp) node
  root := by
    have hne := Forest.ne_size_of_contains h.contains_root
    rw [RuleTree.plant, Forest.slot?_plant, if_neg hne, h.root]
  under := by
    intro id hid hne
    rw [RuleTree.plant, Forest.contains_plant] at hid
    rw [RuleTree.plant, RuleTree.parent?, Forest.parent?_plant]
    split_ifs with hnew
    · exact ⟨parent, rfl⟩
    · exact h.under (hid.resolve_left hnew) hne

theorem relabel (h : t.WellFormed) {id : Nat} {label : String} {t' : RuleTree}
    (hr : t.relabel id label = .ok t') : t'.WellFormed := by
  obtain ⟨node, renamed, hn, hw, rfl⟩ := relabel_eq_ok hr
  have hne : rootId ≠ id := by
    rintro rfl
    rw [h.node?_root, Option.some.injEq] at hn
    subst hn
    simp [RuleNode.withLabel?] at hw
  refine ⟨h.links.replace id renamed, ?_, ?_⟩
  · rw [Forest.slot?_replace, if_neg hne, h.root]
  · intro i hi hroot
    rw [Forest.contains_replace] at hi
    rw [RuleTree.parent?, Forest.parent?_replace]
    exact h.under hi hroot

theorem remove_eq_ok (h : t.WellFormed) {id : Nat} {node : RuleNode} {t' : RuleTree}
    (hr : t.remove id = .ok (node, t')) :
    id ≠ rootId ∧ t.node? id = some node ∧ t' = ⟨t.forest.cut id⟩ := by
  rw [← Forest.remove_eq_cut h.links]
  exact RuleTree.remove_eq_ok hr

theorem remove (h : t.WellFormed) {id : Nat} {node : RuleNode} {t' : RuleTree}
    (hr : t.remove id = .ok (node, t')) : t'.WellFormed := by
  obtain ⟨hne, -, rfl⟩ := h.remove_eq_ok hr
  refine ⟨h.links.cut id, ?_, ?_⟩
  · have hw : t.forest.within id rootId = false := by
      rw [Forest.within_eq_false_iff, Forest.ancestors_of_parent?_eq_none h.parent?_root]
      exact ⟨hne.symm, List.not_mem_nil⟩
    rw [Forest.slot?_cut, hw]
    exact h.root
  · intro i hi hroot
    obtain ⟨hw, hi⟩ := Forest.contains_cut.1 hi
    rw [RuleTree.parent?, Forest.parent?_cut hw]
    exact h.under hi hroot

theorem ofDocument (d : RulesDocument) : (ofDocument d).WellFormed :=
  (Forest.graftAll_induction (P := fun f => (RuleTree.mk f).WellFormed)
    (fun f _ v hf hp => WellFormed.plant (t := ⟨f⟩) hf hp v) d.branches RuleTree.empty.forest rootId
    empty empty.contains_root).1

end WellFormed

/-- What a node has if all that stand directly below it have it, every node has. -/
@[elab_as_elim]
theorem WellFormed.downward (ht : t.WellFormed)
    {P : ∀ (id : Nat) (node : RuleNode), t.node? id = some node → Prop}
    (step : ∀ id node hn,
      (∀ c (hc : c ∈ t.childNodes id), P c.1 c.2 ((mem_childNodes ht.links).1 hc).2) →
      P id node hn)
    {id : Nat} {node : RuleNode} (hn : t.node? id = some node) : P id node hn := by
  refine step id node hn fun c hc => ?_
  obtain ⟨hp, hnode⟩ := (mem_childNodes ht.links).1 hc
  have hlt := (ht.links.parent hp).1
  have hsize := Forest.lt_size_of_contains (Forest.contains_of_value? hnode)
  exact ht.downward step hnode
termination_by t.forest.size - id

/-! ## Runs of edits -/

/-- A call that may change a rule tree. -/
inductive Edit where
  | attach (parent : Nat) (node : RuleNode)
  | insert (parent : Nat) (node : RuleNode)
  | getOrInsert (parent : Nat) (node : RuleNode)
  | relabel (id : Nat) (label : String)
  | remove (id : Nat)
  | adopt (target : Nat) (live : LiveTree) (id : Nat) (polarity : Polarity)

/-- The tree that an edit leaves; one that is refused changes nothing. -/
def edited (t : RuleTree) : Edit → RuleTree
  | .attach parent node => ((t.attach parent node).map (·.2)).toOption.getD t
  | .insert parent node => ((t.insert parent node).map (·.2)).toOption.getD t
  | .getOrInsert parent node => ((t.getOrInsert parent node).map (·.2)).toOption.getD t
  | .relabel id label => (t.relabel id label).toOption.getD t
  | .remove id => ((t.remove id).map (·.2)).toOption.getD t
  | .adopt target live id polarity =>
    ((t.adopt target live id polarity).map (·.2)).toOption.getD t

/-- The trees that edits make of the empty tree or of a document. -/
inductive Reachable : RuleTree → Prop where
  | empty : Reachable empty
  | ofDocument (d : RulesDocument) : Reachable (ofDocument d)
  | edited {t : RuleTree} (h : Reachable t) (e : Edit) : Reachable (t.edited e)

/-- All that an edit can do: nothing, or what attaching, inserting, relabelling or removing does. -/
theorem edited_cases (t : RuleTree) (e : Edit) :
    t.edited e = t ∨
      (∃ parent node id, e = .attach parent node ∧
        t.attach parent node = .ok (id, t.edited e)) ∨
      (∃ parent node id, t.insert parent node = .ok (id, t.edited e)) ∨
      (∃ id label, t.relabel id label = .ok (t.edited e)) ∨
      ∃ id node, t.remove id = .ok (node, t.edited e) := by
  cases e with
  | attach parent node =>
    simp only [edited]
    rcases hr : t.attach parent node with _ | ⟨id, t'⟩
    · exact .inl rfl
    · exact .inr (.inl ⟨parent, node, id, rfl, hr⟩)
  | insert parent node =>
    simp only [edited]
    rcases hr : t.insert parent node with _ | ⟨id, t'⟩
    · exact .inl rfl
    · exact .inr (.inr (.inl ⟨parent, node, id, hr⟩))
  | getOrInsert parent node =>
    simp only [edited]
    rcases hr : t.getOrInsert parent node with _ | ⟨id, t'⟩
    · exact .inl rfl
    · rcases getOrInsert_eq_ok hr with ⟨-, rfl⟩ | hi
      · exact .inl rfl
      · exact .inr (.inr (.inl ⟨parent, node, id, hi⟩))
  | relabel id label =>
    simp only [edited]
    rcases hr : t.relabel id label with _ | t'
    · exact .inl rfl
    · exact .inr (.inr (.inr (.inl ⟨id, label, hr⟩)))
  | remove id =>
    simp only [edited]
    rcases hr : t.remove id with _ | ⟨node, t'⟩
    · exact .inl rfl
    · exact .inr (.inr (.inr (.inr ⟨id, node, hr⟩)))
  | adopt target live id polarity =>
    simp only [edited]
    rcases hr : t.adopt target live id polarity with _ | ⟨new, t'⟩
    · exact .inl rfl
    · rcases adopt_eq_ok hr with ⟨-, rfl⟩ | ⟨place, rule, n, hi, -⟩
      · exact .inl rfl
      · exact .inr (.inr (.inl ⟨place, rule, n, hi⟩))

theorem WellFormed.edited_remove (h : t.WellFormed) {id : Nat} (hid : id ≠ rootId)
    (hc : t.forest.contains id = true) : t.edited (.remove id) = ⟨t.forest.cut id⟩ := by
  obtain ⟨node, hn⟩ := Forest.contains_iff_value?.1 hc
  rw [RuleTree.edited, RuleTree.remove, if_neg hid, show t.node? id = some node from hn,
    Forest.remove_eq_cut h.links]
  rfl

theorem WellFormed.edited (h : t.WellFormed) (e : Edit) : (t.edited e).WellFormed := by
  rcases edited_cases t e with he | ⟨parent, node, id, -, he⟩ | ⟨parent, node, id, he⟩ |
    ⟨id, label, he⟩ | ⟨id, node, he⟩
  · rwa [he]
  · obtain ⟨hp, -, hplant⟩ := attach_eq_ok he
    rw [hplant]
    exact h.plant hp node
  · obtain ⟨holder, hn, -, -, -, hplant⟩ := insert_eq_ok he
    rw [hplant]
    exact h.plant (Forest.contains_of_value? hn) node
  · exact h.relabel he
  · exact h.remove he

theorem Reachable.wellFormed (h : t.Reachable) : t.WellFormed := by
  induction h with
  | empty => exact .empty
  | ofDocument d => exact .ofDocument d
  | edited _ e ih => exact ih.edited e

end RuleTree

end SchemaSieve
