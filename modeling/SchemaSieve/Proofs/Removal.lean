import Mathlib.Tactic
import SchemaSieve.Filter.Compile
import SchemaSieve.Proofs.Grafting
import SchemaSieve.Proofs.Walks

/-!
# Removals and what they take back

A removal takes the nodes of one subtree, each of them once (`ids_perm_cut`), and leaves the other
children of each node that stays in their order. A node that was attached goes without a trace, with
all that was attached below it since (`remove_of_sprouted`).
-/

namespace SchemaSieve

namespace Forest

variable {α : Type} {f g : Forest α} {top id i : Nat}

/-! ## Slot by slot -/

theorem slot?_eq_none_of_le (h : f.size ≤ i) : f.slot? i = none := by
  rw [Option.eq_none_iff_forall_ne_some]
  intro s hs
  have hlt := lt_size_of_slot? hs
  omega

/-! ## What a cut takes -/

/-- A subtree has each node at or below its top once. -/
theorem count_subtree (hf : f.Linked) (hid : f.contains id = true) (a : Nat) :
    (f.subtree id).count a = if f.contains a = true ∧ f.within id a = true then 1 else 0 := by
  have hwalk := walk_flatMap_subtree hf [id] (by simpa using hid)
  rw [List.flatMap_singleton] at hwalk
  -- On the way up: below the top, a node is visited as often as its parent.
  induction a using Nat.strong_induction_on with
  | _ a ih =>
    rw [hwalk.count_eq hf]
    rcases hp : f.parent? a with _ | p
    · have hwithin : f.within id a = true ↔ a = id := by
        simp [within_iff, ancestors_of_parent?_eq_none hp]
      by_cases ha : a = id
      · simp [ha, hid, within_iff]
      · simp [hwithin, ha, Ne.symm ha]
    · obtain ⟨hlt, hpc⟩ := hf.parent hp
      have hac := contains_of_parent? hp
      rw [Option.elim_some, ih p hlt]
      by_cases ha : a = id
      · have hout : f.within id p = false := hf.within_parent? (ha ▸ hp)
        simp [ha, hid, hout, within_iff]
      · have hwithin : f.within id a = f.within id p := by
          rw [Bool.eq_iff_iff, within_iff_of_parent? hf hp, or_iff_right ha]
        simp [hwithin, hac, hpc, Ne.symm ha]

/-- A cut takes the nodes of a subtree and no others. -/
theorem ids_perm_cut (hf : f.Linked) (hid : f.contains id = true) :
    f.ids.Perm (f.subtree id ++ (f.cut id).ids) := by
  refine List.perm_iff_count.2 fun a => ?_
  rw [List.count_append, count_subtree hf hid, f.ids_nodup.count, (f.cut id).ids_nodup.count]
  simp only [mem_ids, contains_cut]
  cases f.contains a <;> cases f.within id a <;> rfl

/-- What is left keeps its children, but for the node that was cut. -/
theorem children_cut (hf : f.Linked) (hi : f.within top i = false) :
    (f.cut top).children i = (f.children i).erase top := by
  refine (under_cut f top (some i)).trans ?_
  rw [Option.any_some, hi, if_neg Bool.false_ne_true]
  exact ((hf.under_nodup (some i)).erase_eq_filter top).symm

/-! ## What grows below a node -/

theorem slot?_cut_plant (hf : f.Linked) (place : Option Nat) (v : α) (top : Nat)
    (hi : i ≠ f.size) : ((f.plant place v).cut top).slot? i = (f.cut top).slot? i := by
  rw [slot?_cut, slot?_cut, slot?_plant, if_neg hi]
  rcases hs : f.slot? i with _ | s
  · simp
  · have hic := contains_iff.2 ⟨s, hs⟩
    rw [within, within, (Extends.plant f place v).ancestors_eq hf hic]

/-- Whether one forest is another with a new node and nodes below it. -/
structure Sprouted (f : Forest α) (top : Nat) (v : α) (g : Forest α) : Prop where
  links : g.Linked
  value : g.value? top = some v
  slot : ∀ i, (g.cut top).slot? i = f.slot? i

namespace Sprouted

variable {v : α} {p : Nat}

theorem plant (hf : f.Linked) (hp : f.contains p = true) (v : α) :
    f.Sprouted f.size v (f.plant (some p) v) where
  links := hf.plant (isPlace_some.2 hp) v
  value := by rw [value?_plant, if_pos rfl]
  slot := by
    intro i
    by_cases hi : i = f.size
    · rw [slot?_cut, hi, within_iff.2 (.inl rfl), if_pos rfl, slot?_eq_none_of_le le_rfl]
    · rw [slot?_cut_plant hf _ _ _ hi, slot?_cut]
      cases hbelow : f.within f.size i
      · rfl
      · -- The number of the new node was not given before, so nothing stood below it.
        have hmem := (within_iff.1 hbelow).resolve_left hi
        exact absurd rfl (ne_size_of_contains (hf.ancestor i _ hmem).2)

theorem grow (h : f.Sprouted top v g) (hp : g.contains p = true) (hbelow : g.within top p = true)
    (w : α) : f.Sprouted top v (g.plant (some p) w) where
  links := h.links.plant (isPlace_some.2 hp) w
  value := ((Extends.plant g _ w).value?_eq (contains_of_value? h.value)).trans h.value
  slot := by
    intro i
    by_cases hi : i = g.size
    · have hparent : (g.plant (some p) w).parent? i = some p := by rw [parent?_plant, if_pos hi]
      have hplant := h.links.plant (isPlace_some.2 hp) w
      have hbelow' : (g.plant (some p) w).within top p = true := by
        rwa [within, (Extends.plant g _ w).ancestors_eq h.links hp]
      have hnone : (g.cut top).slot? i = none := slot?_eq_none_of_le (by simp [hi])
      rw [slot?_cut, (within_iff_of_parent? hplant hparent).2 (.inr hbelow'), if_pos rfl,
        ← h.slot, hnone]
    · rw [slot?_cut_plant h.links _ _ _ hi, h.slot]

end Sprouted

end Forest

namespace RuleTree

variable {t t' t₁ t₂ : RuleTree} {id : Nat} {node : RuleNode}

/-! ## Trees that look the same -/

/-- Whether the nodes of two trees are the same and stand in the same places. -/
def LooksLike (t t' : RuleTree) : Prop :=
  ∀ i, t.node? i = t'.node? i ∧ t.parent? i = t'.parent? i ∧ t.children i = t'.children i

/-- Sieves and documents are made of what a tree looks like from the root down. -/
theorem LooksLike.branch_eq (ht : t.forest.Linked) (ht' : t'.forest.Linked)
    (h : t.LooksLike t') : t.branch = t'.branch := by
  have hbranch : t.forest.branch? rootId = t'.forest.branch? rootId :=
    Forest.branch?_congr (S := fun _ => True) ht' ht (fun i _ => ⟨(h i).1, (h i).2.2⟩)
      (fun _ _ _ _ => trivial) trivial
  rw [branch, branch, hbranch]

theorem looksLike_of_slot? (ht : t.forest.Linked) (ht' : t'.forest.Linked)
    (h : ∀ i, t.forest.slot? i = t'.forest.slot? i) : t.LooksLike t' := by
  intro i
  refine ⟨?_, ?_, Forest.under_congr ht' ht h (some i)⟩
  · rw [node?, node?, Forest.value?, Forest.value?, h]
  · rw [parent?, parent?, Forest.parent?, Forest.parent?, h]

/-! ## Removing -/

/-- Whether a tree is another without a node and all below it. -/
structure Pruned (t : RuleTree) (id : Nat) (t' : RuleTree) : Prop where
  contains : ∀ i, t'.forest.contains i = true ↔
    t.forest.contains i = true ∧ ¬ (i = id ∨ id ∈ t.ancestors i)
  kept : ∀ i, t'.forest.contains i = true → t'.node? i = t.node? i ∧ t'.parent? i = t.parent? i ∧
    t'.children i = if t.parent? id = some i then (t.children i).erase id else t.children i
  ids : t.ids.Perm (t.forest.subtree id ++ t'.ids)
  count : t.count = (t.forest.subtree id).length + t'.count

theorem WellFormed.pruned (ht : t.WellFormed) (hid : t.forest.contains id = true) :
    t.Pruned id ⟨t.forest.cut id⟩ := by
  have hperm := Forest.ids_perm_cut ht.links hid
  refine ⟨fun i => ?_, fun i hi => ?_, hperm, ?_⟩
  · rw [Forest.contains_cut, Forest.within_eq_false_iff, and_comm, ne_eq, not_or]
    rfl
  · have hout := (Forest.contains_cut.1 hi).1
    refine ⟨Forest.value?_cut hout, Forest.parent?_cut hout, ?_⟩
    rw [children, Forest.children_cut ht.links hout, children]
    split_ifs with hp
    · rfl
    · exact List.erase_of_not_mem fun hmem => hp (ht.links.mem_children.1 hmem)
  · rw [count, Forest.count, hperm.length_eq, List.length_append]
    rfl

theorem remove_eq_error_iff :
    (∃ e, t.remove id = .error e) ↔ id = rootId ∨ t.forest.contains id = false := by
  rw [remove]
  by_cases hroot : id = rootId
  · simp [hroot]
  · rw [if_neg hroot, or_iff_right hroot]
    rcases hn : t.node? id with _ | node
    · have hnot : t.forest.contains id = false := Forest.value?_eq_none_iff.1 hn
      simp [hnot]
    · simp [Forest.contains_of_value? hn]

/-! ## Taking back -/

/-- The trees that attaching makes of a tree, one node after the other, if each goes at or below a
node. -/
inductive GrownBelow (t : RuleTree) (top : Nat) : RuleTree → Prop where
  | start : GrownBelow t top t
  | attach {t' : RuleTree} {place : Nat} (h : GrownBelow t top t')
    (hbelow : t'.forest.within top place = true) (node : RuleNode) :
    GrownBelow t top (t'.edited (.attach place node))

theorem sprouted_of_grownBelow (ht : t.WellFormed) {place : Nat}
    (h₁ : t.attach place node = .ok (id, t₁)) (h₂ : t₁.GrownBelow id t₂) :
    t.forest.Sprouted id node t₂.forest := by
  induction h₂ with
  | start =>
    obtain ⟨hp, rfl, rfl⟩ := attach_eq_ok h₁
    exact .plant ht.links hp node
  | @attach t' q h hbelow child ih =>
    simp only [edited, RuleTree.attach]
    split_ifs with hq
    · exact ih.grow hq hbelow child
    · exact ih

/-- Removing the node again leaves what there was before it. -/
theorem remove_of_sprouted (ht : t.WellFormed) (h : t.forest.Sprouted id node t₂.forest) :
    ∃ t₃, t₂.remove id = .ok (node, t₃) ∧ t₃.LooksLike t ∧ t₃.compile = t.compile ∧
      t₃.toDocument = t.toDocument := by
  have hroot : id ≠ rootId := by
    rintro rfl
    have hslot := h.slot rootId
    rw [Forest.slot?_cut, Forest.within_iff.2 (.inl rfl), if_pos rfl, ht.root] at hslot
    cases hslot
  have hlooks : RuleTree.LooksLike ⟨t₂.forest.cut id⟩ t :=
    looksLike_of_slot? (h.links.cut id) ht.links h.slot
  have hbranch : RuleTree.branch ⟨t₂.forest.cut id⟩ = t.branch :=
    hlooks.branch_eq (h.links.cut id) ht.links
  refine ⟨⟨t₂.forest.cut id⟩, ?_, hlooks, ?_, ?_⟩
  · rw [remove, if_neg hroot, show t₂.node? id = some node from h.value,
      Forest.remove_eq_cut h.links]
  · rw [compile, compile, hbranch]
  · rw [toDocument, toDocument, hbranch]

/-- A removal is refused exactly for the root and for what does not stand. Otherwise it gives the
node back and takes it out with all below it, as a loop with a stack would; what else there is
stays, in its place and order. So it takes back the attaching of a node, whatever was attached below
the node since. -/
theorem Reachable.remove_exact (ht : t.Reachable) (id : Nat) :
    ((∃ e, t.remove id = .error e) ↔ id = rootId ∨ t.forest.contains id = false) ∧
      (∀ e, t.remove id = .error e → t.edited (.remove id) = t) ∧
      (∀ node t', t.remove id = .ok (node, t') →
        t.node? id = some node ∧ t'.forest = (t.forest.unlink id).clear [id] ∧
          t'.forest = t.forest.cut id ∧ t.Pruned id t') ∧
      ∀ place node t₁ t₂, t.attach place node = .ok (id, t₁) → t₁.GrownBelow id t₂ →
        ∃ t₃, t₂.remove id = .ok (node, t₃) ∧ t₃.LooksLike t ∧ t₃.compile = t.compile ∧
          t₃.toDocument = t.toDocument := by
  refine ⟨remove_eq_error_iff, fun e he => ?_, fun node t' h => ?_,
    fun place node t₁ t₂ h₁ h₂ => ?_⟩
  · rw [RuleTree.edited, he]
    rfl
  · obtain ⟨-, hn, rfl⟩ := remove_eq_ok h
    have hcut := Forest.remove_eq_cut ht.wellFormed.links id
    refine ⟨hn, rfl, hcut, ?_⟩
    rw [hcut]
    exact ht.wellFormed.pruned (Forest.contains_of_value? hn)
  · exact remove_of_sprouted ht.wellFormed (sprouted_of_grownBelow ht.wellFormed h₁ h₂)

/-- A catalog with a schema, in which a rule stands, and with a rule of its own. -/
def stockRules : RuleTree :=
  empty.run [.attach 0 (.catalog (some "STOCK")), .attach 1 (.schema (some "MAIN")),
    .attach 2 (.excludeTable "TMP.*"), .attach 1 (.includeTable "ORDERS")]

theorem remove_exact_stockRules :
    stockRules.Reachable ∧
      (∃ t', stockRules.remove 2 = .ok (.schema (some "MAIN"), t') ∧ stockRules.Pruned 2 t' ∧
        t'.ids = [0, 1, 4] ∧ t'.children 1 = [4]) ∧
      ∃ t₁ t₂ t₃, stockRules.attach 4 (.includeColumn "ID") = .ok (5, t₁) ∧
        t₁.GrownBelow 5 t₂ ∧ t₂.count = 7 ∧ t₂.remove 5 = .ok (.includeColumn "ID", t₃) ∧
        t₃.LooksLike stockRules := by
  have ht : stockRules.Reachable := reachable_run .empty _
  have hn : stockRules.node? 2 = some (.schema (some "MAIN")) := by decide +kernel
  have hremove : stockRules.remove 2
      = .ok (.schema (some "MAIN"), ⟨stockRules.forest.cut 2⟩) := by
    rw [remove, if_neg (by decide), hn, Forest.remove_eq_cut ht.wellFormed.links]
  obtain ⟨-, -, -, hpruned⟩ := (ht.remove_exact 2).2.2.1 _ _ hremove
  have hattach : stockRules.attach 4 (.includeColumn "ID")
      = .ok (5, stockRules.plant 4 (.includeColumn "ID")) := by
    rw [attach, if_pos (by decide +kernel), show stockRules.nextId = 5 by decide +kernel]
  have hgrown : (stockRules.plant 4 (.includeColumn "ID")).GrownBelow 5
      ((stockRules.plant 4 (.includeColumn "ID")).edited (.attach 5 (.excludeColumn "NOTE"))) :=
    .attach .start (by decide +kernel) _
  obtain ⟨t₃, hback, hlooks, -⟩ := (ht.remove_exact 5).2.2.2 4 _ _ _ hattach hgrown
  exact ⟨ht, ⟨_, hremove, hpruned, by decide +kernel, by decide +kernel⟩,
    _, _, t₃, hattach, hgrown, by decide +kernel, hback, hlooks⟩

end RuleTree

end SchemaSieve
