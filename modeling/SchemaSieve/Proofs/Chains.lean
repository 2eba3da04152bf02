import Mathlib.Tactic
import SchemaSieve.Proofs.Edits

/-!
# Rule trees by their chains

The chain of a node is the way from it up to the root. In a `Tidy` tree every link of a chain keeps
to the placement table and namespaces carry no blank names, so that two nodes which say the same are
equal. What such a tree says is then the set of chains it holds, and `getOrInsert` adds one chain to
this set or none (`getOrInsert_spec`).
-/

namespace SchemaSieve

/-- Whether a namespace has no name rather than a blank one. -/
def RuleNode.Plain : RuleNode → Prop
  | catalog name | schema name => Text.nonBlank name = name
  | _ => True

theorem RuleNode.sameAs_iff_eq {a b : RuleNode} (ha : a.Plain) (hb : b.Plain) :
    a.sameAs b = true ↔ a = b := by
  cases a <;> cases b <;> simp_all [Plain, sameAs, and_assoc]

/-- What can be held is not the same as what holds it. -/
theorem RuleNode.sameAs_of_canContain {a b : RuleNode} (h : a.canContain b = true) :
    a.sameAs b = false := by
  rcases a with _ | _ | _ | ⟨s, q, _⟩ <;> rcases b with _ | _ | _ | ⟨s', q', _⟩ <;>
    first
      | rfl
      | cases h
      | skip
  cases s <;> cases q <;> cases s' <;> first | rfl | cases h

namespace RuleTree

variable {t t' t'' : RuleTree}

/-- The nodes from a node up to the root. -/
def chain (t : RuleTree) (id : Nat) : List RuleNode := t.forest.chain (some id)

/-- Whether some node has a chain. -/
def Holds (t : RuleTree) (c : List RuleNode) : Prop :=
  ∃ id, t.forest.contains id = true ∧ t.chain id = c

/-- Trees in which everything stands where it may and no name is blank. -/
structure Tidy (t : RuleTree) : Prop where
  wellFormed : t.WellFormed
  legal : ∀ ⦃id place : Nat⦄ ⦃node holder : RuleNode⦄, t.parent? id = some place →
    t.node? id = some node → t.node? place = some holder → holder.canContain node = true
  plain : ∀ ⦃id : Nat⦄ ⦃node : RuleNode⦄, t.node? id = some node → node.Plain

theorem WellFormed.chain_root (ht : t.WellFormed) : t.chain rootId = [.root] := by
  rw [chain, Forest.chain_some ht.links ht.node?_root, show t.forest.parent? rootId = none from
    ht.parent?_root, Forest.chain_none]

theorem WellFormed.chain_child (ht : t.WellFormed) {id place : Nat} {node : RuleNode}
    (hp : t.parent? id = some place) (hn : t.node? id = some node) :
    t.chain id = node :: t.chain place := by
  rw [chain, Forest.chain_some ht.links hn, show t.forest.parent? id = some place from hp]
  rfl

/-- What a chain starts with is what its node says. -/
theorem WellFormed.node?_of_chain (ht : t.WellFormed) {id : Nat} {node : RuleNode}
    {c : List RuleNode} (hid : t.forest.contains id = true) (hc : t.chain id = node :: c) :
    t.node? id = some node := by
  obtain ⟨v, hv⟩ := Forest.contains_iff_value?.1 hid
  rw [chain, Forest.chain_some ht.links hv] at hc
  rw [node?, hv, (List.cons.inj hc).1]

/-- A chain of two nodes or more ends in the chain of the place. -/
theorem WellFormed.place_of_chain (ht : t.WellFormed) {id : Nat} {node holder : RuleNode}
    {c : List RuleNode} (hid : t.forest.contains id = true)
    (hc : t.chain id = node :: holder :: c) :
    ∃ place, t.parent? id = some place ∧ t.forest.contains place = true ∧
      t.chain place = holder :: c := by
  have hn := ht.node?_of_chain hid hc
  rcases hp : t.parent? id with _ | place
  · rw [chain, Forest.chain_some ht.links hn, show t.forest.parent? id = none from hp] at hc
    simp at hc
  · rw [ht.chain_child hp hn] at hc
    exact ⟨place, rfl, (ht.links.parent hp).2, (List.cons.inj hc).2⟩

/-- With a chain a tree holds what the chain ends in. -/
theorem WellFormed.holds_of_suffix (ht : t.WellFormed) :
    ∀ {l c : List RuleNode}, t.Holds l → c <:+ l → c ≠ [] → t.Holds c
  | [], c, _, hc, hne => absurd (List.suffix_nil.1 hc) hne
  | node :: l, c, hl, hc, hne => by
    rcases List.suffix_cons_iff.1 hc with rfl | hc
    · exact hl
    · rcases l with _ | ⟨holder, l⟩
      · exact absurd (List.suffix_nil.1 hc) hne
      · obtain ⟨id, hid, hchain⟩ := hl
        obtain ⟨place, -, hplace, hplaceChain⟩ := ht.place_of_chain hid hchain
        exact ht.holds_of_suffix ⟨place, hplace, hplaceChain⟩ hc hne

theorem Tidy.empty : RuleTree.empty.Tidy where
  wellFormed := .empty
  legal := by
    intro id place node holder hp
    have hnone : RuleTree.empty.parent? id = none := by
      rw [RuleTree.parent?, RuleTree.empty, Forest.parent?_plant]
      split_ifs
      · rfl
      · simp [Forest.parent?, Forest.slot?_empty]
    rw [hnone] at hp
    cases hp
  plain := by
    intro id node hn
    rw [RuleTree.node?, RuleTree.empty, Forest.value?_plant] at hn
    split_ifs at hn
    · cases hn
      trivial
    · simp [Forest.value?, Forest.slot?_empty] at hn

theorem holds_empty {c : List RuleNode} : RuleTree.empty.Holds c ↔ c = [.root] := by
  constructor
  · rintro ⟨id, hid, rfl⟩
    rw [RuleTree.empty, Forest.contains_plant] at hid
    rcases hid with rfl | hid
    · exact WellFormed.empty.chain_root
    · simp [Forest.contains, Forest.slot?_empty] at hid
  · rintro rfl
    exact ⟨rootId, WellFormed.empty.contains_root, WellFormed.empty.chain_root⟩

/-! ## Growing -/

/-- Whether a tree has become a tidy one in which some chains are new and all nodes as before. -/
structure Grows (t t' : RuleTree) (new : List RuleNode → Prop) : Prop where
  tidy : t'.Tidy
  kept : t.forest.Extends t'.forest
  holds : ∀ c, t'.Holds c ↔ t.Holds c ∨ new c

namespace Grows

variable {new new' : List RuleNode → Prop}

theorem refl (ht : t.Tidy) : t.Grows t fun _ => False :=
  ⟨ht, .refl _, fun _ => (or_iff_left id).symm⟩

theorem trans (h : t.Grows t' new) (h' : t'.Grows t'' new') :
    t.Grows t'' fun c => new c ∨ new' c :=
  ⟨h'.tidy, h.kept.trans h'.kept, fun c => by rw [h'.holds, h.holds, or_assoc]⟩

theorem congr (h : t.Grows t' new) (hnew : ∀ c, new c ↔ new' c) : t.Grows t' new' :=
  ⟨h.tidy, h.kept, fun c => by rw [h.holds, hnew]⟩

theorem contains (h : t.Grows t' new) {id : Nat} (hid : t.forest.contains id = true) :
    t'.forest.contains id = true :=
  h.kept.contains hid

theorem node?_eq (h : t.Grows t' new) {id : Nat} (hid : t.forest.contains id = true) :
    t'.node? id = t.node? id :=
  h.kept.value?_eq hid

theorem chain_eq (ht : t.Tidy) (h : t.Grows t' new) {id : Nat}
    (hid : t.forest.contains id = true) : t'.chain id = t.chain id :=
  h.kept.chain_eq ht.wellFormed.links (Forest.isPlace_some.2 hid)

end Grows

/-- A planted node adds its chain. -/
theorem Tidy.plant (ht : t.Tidy) {place : Nat} {holder node : RuleNode}
    (hplace : t.node? place = some holder) (hcan : holder.canContain node = true)
    (hplain : node.Plain) :
    t.Grows (t.plant place node) (· = node :: t.chain place) ∧
      (t.plant place node).forest.contains t.nextId = true ∧
      (t.plant place node).chain t.nextId = node :: t.chain place := by
  have hpc := Forest.contains_of_value? hplace
  have hwf := ht.wellFormed.plant hpc node
  have hext : t.forest.Extends (t.plant place node).forest := .plant _ _ _
  have hold : ∀ {id : Nat}, t.forest.contains id = true →
      (t.plant place node).chain id = t.chain id := fun hid =>
    hext.chain_eq ht.wellFormed.links (Forest.isPlace_some.2 hid)
  have hnew : (t.plant place node).forest.contains t.nextId = true :=
    Forest.contains_plant.2 (.inl rfl)
  have hchain : (t.plant place node).chain t.nextId = node :: t.chain place := by
    rw [← hold hpc]
    refine hwf.chain_child ?_ ?_
    · simp [parent?, RuleTree.plant, Forest.parent?_plant, nextId]
    · simp [node?, RuleTree.plant, Forest.value?_plant, nextId]
  refine ⟨⟨⟨hwf, ?_, ?_⟩, hext, ?_⟩, hnew, hchain⟩
  · intro id p n b hp hn hb
    simp only [parent?, node?, RuleTree.plant, Forest.parent?_plant, Forest.value?_plant]
      at hp hn hb
    split_ifs at hp hn hb with hid hpn hpn
    · cases hp
      exact absurd hpn (Forest.ne_size_of_contains hpc)
    · cases hp
      cases hn
      obtain rfl := Option.some.inj (hplace.symm.trans hb)
      exact hcan
    · exact absurd hpn (Forest.ne_size_of_contains (ht.wellFormed.links.parent hp).2)
    · exact ht.legal hp hn hb
  · intro id n hn
    simp only [node?, RuleTree.plant, Forest.value?_plant] at hn
    split_ifs at hn
    · cases hn
      exact hplain
    · exact ht.plain hn
  · intro c
    constructor
    · rintro ⟨id, hid, rfl⟩
      rcases Forest.contains_plant.1 hid with rfl | hid
      · exact .inr hchain
      · exact .inl ⟨id, hid, (hold hid).symm⟩
    · rintro (⟨id, hid, rfl⟩ | rfl)
      · exact ⟨id, hext.contains hid, hold hid⟩
      · exact ⟨t.nextId, hnew, hchain⟩

/-- What is found in a place to say the same as a node is that node. -/
theorem Tidy.findChild?_eq_some (ht : t.Tidy) {place id : Nat} {node : RuleNode}
    (hplain : node.Plain) (hf : t.findChild? place node = some id) :
    t.parent? id = some place ∧ t.node? id = some node := by
  obtain ⟨n, hmem, hsame⟩ := RuleTree.findChild?_eq_some hf
  obtain ⟨hp, hn⟩ := (mem_childNodes ht.wellFormed.links).1 hmem
  obtain rfl := (RuleNode.sameAs_iff_eq (ht.plain hn) hplain).1 hsame
  exact ⟨hp, hn⟩

/-- Where a node may stand, asking for it adds its chain unless it is held already. -/
theorem getOrInsert_spec (ht : t.Tidy) {place : Nat} {holder node : RuleNode}
    (hplace : t.node? place = some holder) (hcan : holder.canContain node = true)
    (hplain : node.Plain) :
    ∃ id t', t.getOrInsert place node = .ok (id, t') ∧
      t.Grows t' (· = node :: t.chain place) ∧ t'.forest.contains id = true ∧
      t'.chain id = node :: t.chain place := by
  rcases hf : t.findChild? place node with _ | id
  · refine ⟨t.nextId, t.plant place node, ?_, ht.plant hplace hcan hplain⟩
    have hpc := Forest.contains_of_value? hplace
    simp [getOrInsert, hf, insert, hplace, hcan, RuleNode.sameAs_of_canContain hcan, attach, hpc]
  · obtain ⟨hp, hn⟩ := ht.findChild?_eq_some hplain hf
    have hid := Forest.contains_of_value? hn
    have hchain := ht.wellFormed.chain_child hp hn
    refine ⟨id, t, by simp [getOrInsert, hf], ⟨ht, .refl _, fun c => ?_⟩, hid, hchain⟩
    refine (or_iff_left_of_imp ?_).symm
    rintro rfl
    exact ⟨id, hid, hchain⟩

/-- Where a node may not stand, asking for it is refused. -/
theorem getOrInsert_eq_error (ht : t.Tidy) {place : Nat} {holder node : RuleNode}
    (hplace : t.node? place = some holder) (hcan : holder.canContain node = false)
    (hplain : node.Plain) : t.getOrInsert place node = .error (.misplaced holder node) := by
  rcases hf : t.findChild? place node with _ | id
  · simp [getOrInsert, hf, insert, hplace, hcan]
  · obtain ⟨hp, hn⟩ := ht.findChild?_eq_some hplain hf
    rw [ht.legal hp hn hplace] at hcan
    cases hcan

end RuleTree

end SchemaSieve
