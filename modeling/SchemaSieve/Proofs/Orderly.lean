import Mathlib.Tactic
import SchemaSieve.Proofs.Links
import SchemaSieve.Proofs.Saving
import SchemaSieve.Proofs.Scaffold

/-!
# Orderly rule trees

In an `Orderly` tree every node stands where the placement table allows, and nodes under one parent
differ in form or in label. All edits but plain attaching keep a tree orderly: what is inserted was
looked for first, and a new label is compared with those beside it. Scaffolding asks for every node
that it puts into a tree (`scaffold_induction`), so scaffolds are orderly too. Whatever is made of
them by such edits compiles without a finding about places, and looking for a node in a place finds
the only one there that says the same (`run_orderly`).
-/

namespace SchemaSieve

namespace RuleNode

variable {m n : RuleNode}

/-- Nodes say the same if they agree in form and in label. -/
theorem sameAs_iff : m.sameAs n = true ↔ m.form = n.form ∧ m.label? = n.label? := by
  rcases m with _ | a | a | ⟨s, p, a⟩ <;> rcases n with _ | b | b | ⟨s', p', b⟩ <;>
    simp only [sameAs, form, family?, polarity?, label?, containerName?, Bool.and_eq_true,
      beq_iff_eq]
  case rule.rule => cases s <;> cases s' <;> simp [RuleSubject.kind]
  all_goals simp

/-- Another label changes neither where a node may stand nor what may stand below it. -/
theorem canContain_withLabel? {label : String} (h : m.withLabel? label = some n) :
    (∀ holder : RuleNode, holder.canContain n = holder.canContain m) ∧
      ∀ child : RuleNode, n.canContain child = m.canContain child := by
  constructor
  · intro holder
    rcases m with _ | _ | _ | ⟨s, p, _⟩ <;> cases h <;>
      rcases holder with _ | _ | _ | ⟨_ | _ | _, _ | _, _⟩ <;> first | rfl | (cases s <;> rfl)
  · intro child
    rcases m with _ | _ | _ | ⟨_ | _ | _, _ | _, _⟩ <;> cases h <;>
      rcases child with _ | _ | _ | ⟨_ | _ | _, _, _⟩ <;> rfl

end RuleNode

namespace RuleTree

variable {t t' : RuleTree}

/-! ## Orderly trees -/

/-- Whether every node stands under one that may contain it, and no two nodes under one parent have
both the form and the label in common. -/
structure Orderly (t : RuleTree) : Prop where
  wellFormed : t.WellFormed
  placed : ∀ ⦃id : Nat⦄, t.forest.contains id = true → id ≠ rootId →
    ∃ place holder node, t.parent? id = some place ∧ t.node? place = some holder ∧
      t.node? id = some node ∧ holder.canContain node = true
  distinct : ∀ ⦃place a b : Nat⦄ ⦃m n : RuleNode⦄, (a, m) ∈ t.childNodes place →
    (b, n) ∈ t.childNodes place → m.form = n.form → m.label? = n.label? → a = b

namespace Orderly

theorem canContain (h : t.Orderly) {place id : Nat} {holder node : RuleNode}
    (hholder : t.node? place = some holder) (hmem : (id, node) ∈ t.childNodes place) :
    holder.canContain node = true := by
  obtain ⟨hp, hn⟩ := (mem_childNodes h.wellFormed.links).1 hmem
  have hne : id ≠ rootId := by
    rintro rfl
    rw [h.wellFormed.parent?_root] at hp
    cases hp
  obtain ⟨place', holder', node', hp', hholder', hn', hcan⟩ :=
    h.placed (Forest.contains_of_value? hn) hne
  obtain rfl := Option.some.inj (hp'.symm.trans hp)
  obtain rfl := Option.some.inj (hholder'.symm.trans hholder)
  obtain rfl := Option.some.inj (hn'.symm.trans hn)
  exact hcan

theorem empty : RuleTree.empty.Orderly where
  wellFormed := .empty
  placed := by
    intro id hid hne
    obtain ⟨place, hp⟩ := WellFormed.empty.under hid hne
    have hlt := (WellFormed.empty.links.parent hp).1
    have hsize : id < 1 := Forest.lt_size_of_contains hid
    omega
  distinct := by
    intro place a b m n ha hb
    have ha := (mem_childNodes WellFormed.empty.links).1 ha
    have hlt := (WellFormed.empty.links.parent ha.1).1
    have hsize : a < 1 := Forest.lt_size_of_contains (Forest.contains_of_value? ha.2)
    omega

end Orderly

/-! ## Inserting -/

/-- After a planting the new node stands under its parent, and all else as before. -/
theorem mem_childNodes_plant (hf : t.forest.Linked) {place parent id : Nat}
    (hparent : t.forest.contains parent = true) {node n : RuleNode} :
    (id, n) ∈ (t.plant parent node).childNodes place ↔
      (id = t.nextId ∧ parent = place ∧ node = n) ∨ (id, n) ∈ t.childNodes place := by
  have hplant : (t.plant parent node).forest.Linked := hf.plant (Forest.isPlace_some.2 hparent) node
  rw [mem_childNodes hplant, mem_childNodes hf]
  simp only [parent?, node?, RuleTree.plant, Forest.parent?_plant, Forest.value?_plant, nextId]
  by_cases hid : id = t.forest.size
  · have hnone : t.forest.value? id = none := Forest.value?_eq_none hid.ge
    simp [hid, hid ▸ hnone]
  · simp [hid]

theorem Orderly.insert (h : t.Orderly) {parent id : Nat} {node : RuleNode}
    (hi : t.insert parent node = .ok (id, t')) : t'.Orderly := by
  obtain ⟨holder, hholder, hcan, hfind, -, rfl⟩ := insert_eq_ok hi
  have hpc := Forest.contains_of_value? hholder
  have hext : t.forest.Extends (t.plant parent node).forest := .plant _ _ _
  refine ⟨h.wellFormed.plant hpc node, fun c hc hne => ?_,
    fun place a b m n ha hb hform hlabel => ?_⟩
  · rcases Forest.contains_plant.1 hc with rfl | hc
    · refine ⟨parent, holder, node, ?_, (hext.value?_eq hpc).trans hholder, ?_, hcan⟩
      · simp [parent?, RuleTree.plant, Forest.parent?_plant]
      · simp [node?, RuleTree.plant, Forest.value?_plant]
    · obtain ⟨place, b, n, hp, hb, hn, hcan'⟩ := h.placed hc hne
      have hbc := Forest.contains_of_value? hb
      exact ⟨place, b, n, (hext.parent?_eq hc).trans hp, (hext.value?_eq hbc).trans hb,
        (hext.value?_eq hc).trans hn, hcan'⟩
  · -- A node beside the new one that says the same would have been found.
    have hclash : ∀ {c : Nat} {k : RuleNode}, (c, k) ∈ t.childNodes parent →
        ¬ (k.form = node.form ∧ k.label? = node.label?) := by
      intro c k hmem hk
      have hne := findChild?_eq_none hfind hmem
      rw [RuleNode.sameAs_iff.2 hk] at hne
      cases hne
    rw [mem_childNodes_plant h.wellFormed.links hpc] at ha hb
    rcases ha with ⟨rfl, rfl, rfl⟩ | ha <;> rcases hb with ⟨rfl, hp, rfl⟩ | hb
    · rfl
    · exact absurd ⟨hform.symm, hlabel.symm⟩ (hclash hb)
    · exact absurd ⟨hform, hlabel⟩ (hclash (hp ▸ ha))
    · exact h.distinct ha hb hform hlabel

theorem Orderly.getOrInsert (h : t.Orderly) {parent id : Nat} {node : RuleNode}
    (hg : t.getOrInsert parent node = .ok (id, t')) : t'.Orderly := by
  rcases getOrInsert_eq_ok hg with ⟨-, rfl⟩ | hi
  · exact h
  · exact h.insert hi

/-! ## Relabelling -/

theorem node?_replace (id i : Nat) (node : RuleNode) :
    (⟨t.forest.replace id node⟩ : RuleTree).node? i
      = if i = id then (t.node? i).map fun _ => node else t.node? i := by
  simp only [node?, Forest.value?, Forest.slot?_replace]
  split_ifs
  · rw [Option.map_map, Option.map_map]
    rfl
  · rfl

/-- No other node under the parent says what a node says that was given a label. -/
theorem sameAs_of_relabel (ht : t.WellFormed) {id place c : Nat} {label : String}
    {node renamed n : RuleNode} (h : t.relabel id label = .ok t') (hn : t.node? id = some node)
    (hw : node.withLabel? label = some renamed) (hp : t.parent? id = some place)
    (hc : (c, n) ∈ t.childNodes place) (hne : c ≠ id) : n.sameAs renamed = false := by
  obtain ⟨holder, hholder⟩ := Forest.contains_iff_value?.1 (ht.links.parent hp).2
  have hs : t.surroundings? id
      = some (holder, ((t.childNodes place).filter fun c => c.1 != id).map (·.2)) := by
    simp [surroundings?, hp, show t.node? place = some holder from hholder]
  unfold relabel at h
  simp only [hn, hw, hs] at h
  split_ifs at h with hb hclash
  rw [Bool.not_eq_true, List.any_eq_false] at hclash
  have hmem : n ∈ ((t.childNodes place).filter fun c => c.1 != id).map (·.2) :=
    List.mem_map.2 ⟨(c, n), List.mem_filter.2 ⟨hc, by simpa using hne⟩, rfl⟩
  simpa using hclash n hmem

theorem Orderly.relabel (h : t.Orderly) {id : Nat} {label : String}
    (hr : t.relabel id label = .ok t') : t'.Orderly := by
  have hwf := h.wellFormed.relabel hr
  obtain ⟨node, renamed, hn, hw, rfl⟩ := relabel_eq_ok hr
  have hparent : ∀ i, (⟨t.forest.replace id renamed⟩ : RuleTree).parent? i = t.parent? i :=
    Forest.parent?_replace t.forest id renamed
  -- What stands at a number contains the same, and may stand in the same places, as before.
  have hkept : ∀ {i : Nat} {k : RuleNode}, t.node? i = some k →
      ∃ k', (⟨t.forest.replace id renamed⟩ : RuleTree).node? i = some k' ∧
        (∀ holder : RuleNode, holder.canContain k' = holder.canContain k) ∧
          ∀ child : RuleNode, k'.canContain child = k.canContain child := by
    intro i k hk
    rw [node?_replace, hk]
    split_ifs with hi
    · obtain rfl := Option.some.inj ((hi ▸ hk).symm.trans hn)
      exact ⟨renamed, rfl, RuleNode.canContain_withLabel? hw⟩
    · exact ⟨k, rfl, fun _ => rfl, fun _ => rfl⟩
  have hchild : ∀ {place i : Nat} {k : RuleNode},
      (i, k) ∈ (⟨t.forest.replace id renamed⟩ : RuleTree).childNodes place →
        (i = id ∧ k = renamed ∧ t.parent? id = some place) ∨
          (i ≠ id ∧ (i, k) ∈ t.childNodes place) := by
    intro place i k hmem
    rw [mem_childNodes hwf.links, hparent, node?_replace] at hmem
    obtain ⟨hp, hk⟩ := hmem
    split_ifs at hk with hi
    · subst hi
      rw [hn, Option.map_some, Option.some.injEq] at hk
      exact .inl ⟨rfl, hk.symm, hp⟩
    · exact .inr ⟨hi, (mem_childNodes h.wellFormed.links).2 ⟨hp, hk⟩⟩
  refine ⟨hwf, fun c hc hne => ?_, fun place a b m n ha hb hform hlabel => ?_⟩
  · rw [Forest.contains_replace] at hc
    obtain ⟨place, holder, k, hp, hholder, hk, hcan⟩ := h.placed hc hne
    obtain ⟨holder', hholder', -, hbelow⟩ := hkept hholder
    obtain ⟨k', hk', habove, -⟩ := hkept hk
    exact ⟨place, holder', k', (hparent c).trans hp, hholder', hk', by rw [hbelow, habove, hcan]⟩
  · have hclash : ∀ {c : Nat} {k : RuleNode}, t.parent? id = some place → c ≠ id →
        (c, k) ∈ t.childNodes place → ¬ (k.form = renamed.form ∧ k.label? = renamed.label?) := by
      intro c k hp hne hmem hk
      have hdiffers := sameAs_of_relabel h.wellFormed hr hn hw hp hmem hne
      rw [RuleNode.sameAs_iff.2 hk] at hdiffers
      cases hdiffers
    rcases hchild ha with ⟨hai, hm, hp⟩ | ⟨hane, hat⟩ <;>
      rcases hchild hb with ⟨hbi, hn', hp⟩ | ⟨hbne, hbt⟩
    · exact hai.trans hbi.symm
    · exact absurd ⟨(hm ▸ hform).symm, (hm ▸ hlabel).symm⟩ (hclash hp hbne hbt)
    · exact absurd ⟨hn' ▸ hform, hn' ▸ hlabel⟩ (hclash hp hane hat)
    · exact h.distinct hat hbt hform hlabel

/-! ## Removing -/

theorem Orderly.remove (h : t.Orderly) {id : Nat} {node : RuleNode}
    (hr : t.remove id = .ok (node, t')) : t'.Orderly := by
  have hwf := h.wellFormed.remove hr
  obtain ⟨-, -, rfl⟩ := h.wellFormed.remove_eq_ok hr
  have hnode : ∀ {i}, (t.forest.cut id).contains i = true →
      (⟨t.forest.cut id⟩ : RuleTree).node? i = t.node? i :=
    fun hi => Forest.value?_cut (Forest.contains_cut.1 hi).1
  have hparent : ∀ {i}, (t.forest.cut id).contains i = true →
      (⟨t.forest.cut id⟩ : RuleTree).parent? i = t.parent? i :=
    fun hi => Forest.parent?_cut (Forest.contains_cut.1 hi).1
  have hchild : ∀ {place i : Nat} {k : RuleNode},
      (i, k) ∈ (⟨t.forest.cut id⟩ : RuleTree).childNodes place → (i, k) ∈ t.childNodes place := by
    intro place i k hmem
    obtain ⟨hp, hk⟩ := (mem_childNodes hwf.links).1 hmem
    have hi := Forest.contains_of_value? hk
    exact (mem_childNodes h.wellFormed.links).2
      ⟨(hparent hi).symm.trans hp, (hnode hi).symm.trans hk⟩
  refine ⟨hwf, fun c hc hne => ?_, fun place a b m n ha hb hform hlabel =>
    h.distinct (hchild ha) (hchild hb) hform hlabel⟩
  obtain ⟨place, holder, k, hp, hholder, hk, hcan⟩ := h.placed (Forest.contains_cut.1 hc).2 hne
  have hp' : (⟨t.forest.cut id⟩ : RuleTree).parent? c = some place := (hparent hc).trans hp
  -- The parent of what is left is left.
  have hplace : (t.forest.cut id).contains place = true := (hwf.links.parent hp').2
  exact ⟨place, holder, k, hp', (hnode hplace).trans hholder, (hnode hc).trans hk, hcan⟩

/-! ## Scaffolding -/

end RuleTree

section

variable {P : RuleTree → Prop} {live : LiveTree}
  (hstep : ∀ t t' place node id, P t → RuleTree.getOrInsert t place node = .ok (id, t') → P t')

include hstep

namespace Scaffolding

variable {s : Scaffolding}

theorem opened_induction (hs : P s.rules) (place : Nat) (container : RuleNode)
    (members : List Nat) : P (s.opened place container members).rules := by
  unfold opened
  split
  · exact hstep _ _ _ _ _ hs ‹_›
  · exact hs

theorem enlist_induction (hs : P s.rules) (place id : Nat) :
    P (s.enlist live place id).rules := by
  rw [enlist_eq]
  rcases live.listing? id with _ | rule
  · exact hs
  · simp only
    split_ifs
    · exact opened_induction hstep hs place rule _
    · split
      · exact hstep _ _ _ _ _ hs ‹_›
      · exact hs

theorem fill_induction {rules : RuleTree} (hrules : P rules) (place : Nat) (members : List Nat)
    (wildcard : RuleNode) (hidden : List Nat) :
    P (fill live rules place members wildcard hidden).rules := by
  have hlisted : P (members.foldl (enlist live place) ⟨rules, []⟩).rules :=
    List.foldlRecOn (motive := fun s : Scaffolding => P s.rules) members _ hrules
      fun s hs m _ => enlist_induction hstep hs place m
  unfold fill
  simp only
  split_ifs
  · exact hlisted
  · exact opened_induction hstep hlisted place wildcard hidden

end Scaffolding

namespace LiveTree

/-- What holds of the empty tree and is kept by asking for a node holds of every scaffold. -/
theorem scaffold_induction (hempty : P .empty) (live : LiveTree) : P live.scaffold := by
  have hschema : ∀ rules place members, P rules → P (live.fillSchema rules place members) :=
    fun rules place members h => Scaffolding.fill_induction hstep h place members _ _
  have hcatalog : ∀ rules place members, P rules → P (live.fillCatalog rules place members) := by
    intro rules place members h
    unfold fillCatalog
    exact List.foldlRecOn _ _ (Scaffolding.fill_induction hstep h place _ _ _)
      fun rules h e _ => hschema rules e.1 e.2 h
  have hfill : ∀ rules place members, P rules → P (live.fillContainer rules place members) := by
    intro rules place members h
    unfold fillContainer
    split
    · exact hcatalog rules place members h
    · exact hschema rules place members h
  unfold scaffold
  simp only
  split_ifs <;> exact List.foldlRecOn _ _ (Scaffolding.fill_induction hstep hempty _ _ _ _)
    fun rules h e _ => hfill rules e.1 e.2 h

end LiveTree

end

namespace RuleTree

variable {t : RuleTree}

/-! ## Runs of edits -/

/-- Whether an edit looks at a place before it puts a node there. Attaching does not. -/
def Edit.isGuarded : Edit → Bool
  | attach .. => false
  | _ => true

/-- The tree that guarded edits start from: the scaffold of a live tree, or the empty one. -/
def seed (source : Option LiveTree) : RuleTree := source.elim empty LiveTree.scaffold

namespace Orderly

theorem edited (h : t.Orderly) {e : Edit} (he : e.isGuarded = true) : (t.edited e).Orderly := by
  rcases edited_cases t e with hsame | ⟨parent, node, id, hattach, _⟩ | ⟨parent, node, id, hi⟩ |
    ⟨id, label, hr⟩ | ⟨id, node, hr⟩
  · rwa [hsame]
  · rw [hattach] at he
    cases he
  · exact h.insert hi
  · exact h.relabel hr
  · exact h.remove hr

theorem run (h : t.Orderly) {edits : List Edit} (hedits : ∀ e ∈ edits, e.isGuarded = true) :
    (t.run edits).Orderly := by
  induction edits generalizing t with
  | nil => exact h
  | cons e edits ih =>
    obtain ⟨he, hedits⟩ := List.forall_mem_cons.1 hedits
    exact ih (h.edited he) hedits

theorem scaffold (live : LiveTree) : live.scaffold.Orderly :=
  live.scaffold_induction (fun _ _ _ _ _ h hg => h.getOrInsert hg) .empty

theorem seed (source : Option LiveTree) : (seed source).Orderly := by
  rcases source with _ | live
  · exact .empty
  · exact .scaffold live

/-! ## What orderly trees are good for -/

theorem findChild?_eq_some_iff (h : t.Orderly) {place id : Nat} {node : RuleNode} :
    t.findChild? place node = some id ↔
      ∃ n, (id, n) ∈ t.childNodes place ∧ n.form = node.form ∧ n.label? = node.label? := by
  simp only [← RuleNode.sameAs_iff]
  refine ⟨findChild?_eq_some, fun ⟨n, hmem, hsame⟩ => ?_⟩
  rcases hf : t.findChild? place node with _ | found
  · rw [findChild?_eq_none hf hmem] at hsame
    cases hsame
  · obtain ⟨m, hfound, hm⟩ := findChild?_eq_some hf
    obtain ⟨hform, hlabel⟩ := RuleNode.sameAs_iff.1 hm
    obtain ⟨hform', hlabel'⟩ := RuleNode.sameAs_iff.1 hsame
    rw [h.distinct hfound hmem (hform.trans hform'.symm) (hlabel.trans hlabel'.symm)]

/-- Nothing is wrong in an orderly tree but patterns. -/
theorem isAboutPattern (h : t.Orderly) {id : Nat} {node : RuleNode} (hn : t.node? id = some node)
    (path : List RuleNode) :
    ∀ x ∈ findingsFrom path (t.branchAt id node), x.isAboutPattern = true := by
  induction hn using h.wellFormed.downward generalizing path with
  | step id node hn ih =>
    intro x hx
    rw [findingsFrom_eq, List.mem_append, List.mem_append] at hx
    rcases hx with (hx | hx) | hx
    · exact isAboutPattern_of_mem_patternFindings hx
    · rw [misplacedFindings, children_branchAt h.wellFormed] at hx
      obtain ⟨b, hb, -⟩ := List.mem_map.1 hx
      obtain ⟨hb, hnot⟩ := List.mem_filter.1 hb
      obtain ⟨c, hc, rfl⟩ := List.mem_map.1 hb
      simp [branchAt, Branch.value, h.canContain hn hc] at hnot
    · obtain ⟨b, hb, hx⟩ := List.mem_flatMap.1 hx
      rw [legalChildren_branchAt h.wellFormed] at hb
      obtain ⟨c, hc, rfl⟩ := List.mem_map.1 hb
      exact ih c (List.mem_of_mem_filter hc) _ x hx

theorem not_misplaced (h : t.Orderly) (location : String) (child parent : RuleNode) :
    .malformedRule location (.misplaced child parent) ∉ t.compile.findings := by
  intro hx
  rw [compile, branch_eq h.wellFormed] at hx
  have habout := h.isAboutPattern h.wellFormed.node?_root _ _ hx
  cases habout

end Orderly

/-- However a scaffold or the empty tree is edited without plain attaching, it stays orderly: no
node is found to be out of place, and looking for a node finds the one child that says the same. -/
theorem run_orderly (source : Option LiveTree) (edits : List Edit)
    (hedits : ∀ e ∈ edits, e.isGuarded = true) :
    ((seed source).run edits).Orderly ∧
      (∀ location child parent, .malformedRule location (.misplaced child parent) ∉
        ((seed source).run edits).compile.findings) ∧
      ∀ place node id, ((seed source).run edits).findChild? place node = some id ↔
        ∃ n, (id, n) ∈ ((seed source).run edits).childNodes place ∧
          n.form = node.form ∧ n.label? = node.label? := by
  have h : ((seed source).run edits).Orderly := (Orderly.seed source).run hedits
  exact ⟨h, h.not_misplaced, fun _ _ _ => h.findChild?_eq_some_iff⟩

/-- A named catalog, and beside it a table that goes into a catalog without a name. -/
def salesBeside : LiveTree := .ofObjects [
  ⟨.table, some "ORDERS", some "SALES", none, none⟩, ⟨.table, some "LOOSE", none, none, none⟩]

/-- Edits of its scaffold: a blank catalog that is there already, a label that clashes and one that
does not, an adopted table that goes beside its target, and a removed branch. -/
def salesEdits : List Edit := [
  .getOrInsert 0 (.catalog (some " ")), .insert 0 (.schema (some "")), .relabel 2 "SALES",
  .relabel 2 "STOCK", .adopt 3 salesBeside 1 .excludes, .insert 0 (.catalog none), .remove 1]

theorem run_orderly_salesEdits :
    (∀ e ∈ salesEdits, e.isGuarded = true) ∧
      ((seed (some salesBeside)).run salesEdits).Orderly ∧
      ((seed (some salesBeside)).run salesEdits).findChild? 0 (.catalog (some "  ")) = some 7 := by
  have hedits : ∀ e ∈ salesEdits, e.isGuarded = true := by decide
  obtain ⟨horderly, -, hfind⟩ := run_orderly (some salesBeside) salesEdits hedits
  have hbefore := (Orderly.seed (some salesBeside)).run
    (show ∀ e ∈ salesEdits.dropLast, e.isGuarded = true by decide)
  have hremoved : (seed (some salesBeside)).run salesEdits
      = ⟨((seed (some salesBeside)).run salesEdits.dropLast).forest.cut 1⟩ :=
    hbefore.wellFormed.edited_remove (show 1 ≠ rootId by decide) (by decide +kernel)
  exact ⟨hedits, horderly, (hfind 0 (.catalog (some "  ")) 7).2
    ⟨.catalog none, by rw [hremoved]; decide +kernel, rfl, by decide +kernel⟩⟩

end RuleTree

end SchemaSieve
