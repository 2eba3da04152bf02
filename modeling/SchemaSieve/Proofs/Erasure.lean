import Mathlib.Tactic
import SchemaSieve.Proofs.Branches
import SchemaSieve.Proofs.Decisions
import SchemaSieve.Proofs.Links

/-!
# Faulty rules count as absent

A node is `Faulty` if its parent must not contain it or if it is a rule with a blank or invalid
pattern. Removing the faulty nodes, in whatever order, leaves the other nodes under the nodes that
are kept (`Erasure`, `erasure_run`). The children that are gone gave empty filters, so the sieve is
the same, and nothing is left to report (`Reachable.compile_erased`).
-/

namespace SchemaSieve

/-- Whether the pattern of a node, if it has one, is neither blank nor invalid. -/
def RuleNode.isSound (node : RuleNode) : Bool :=
  node.pattern?.all fun source => (validPattern? source).isSome

theorem validPattern?_eq_none_iff {source : String} :
    validPattern? source = none ↔
      Text.isBlank source = true ∨ ∃ e, NamePattern.ofSource source = .error e := by
  unfold validPattern?
  split_ifs with hb
  · simp [hb]
  · rcases NamePattern.ofSource source with e | p <;> simp [hb, Except.toOption]

/-! ## Filters without what is faulty -/

namespace FilterSet

/-- Parts that give nothing may be left out of a merge. -/
theorem mergeAll_filter {β : Type} {q : β → Bool} {f : β → FilterSet} (xs : List β)
    (h : ∀ x ∈ xs, q x = false → f x = empty) :
    mergeAll ((xs.filter q).map f) = mergeAll (xs.map f) := by
  have hfold : ∀ a : FilterSet, ((xs.filter q).map f).foldl merge a = (xs.map f).foldl merge a := by
    induction xs with
    | nil => exact fun _ => rfl
    | cons x xs ih =>
      intro a
      have hrest := ih fun y hy => h y (List.mem_cons_of_mem _ hy)
      rcases hx : q x
      · rw [List.filter_cons_of_neg (by simp [hx]), List.map_cons, List.foldl_cons,
          h x List.mem_cons_self hx, merge_empty, hrest]
      · rw [List.filter_cons_of_pos hx, List.map_cons, List.map_cons, List.foldl_cons,
          List.foldl_cons, hrest]
  exact hfold empty

theorem ofNode_of_not_isSound {node : RuleNode} (h : node.isSound = false) :
    ofNode node = empty := by
  rcases node with _ | _ | _ | ⟨s, p, source⟩
  · rfl
  · rfl
  · rfl
  · have hv : validPattern? source = none := by simpa [RuleNode.isSound, RuleNode.pattern?] using h
    simp [ofNode, hv]

theorem ofBranch_of_not_isSound {b : Branch RuleNode} (h : b.value.isSound = false) :
    ofBranch b = empty := by
  unfold ofBranch
  split
  · rename_i source hb
    have hv : validPattern? source = none := by
      simpa [hb, RuleNode.isSound, RuleNode.pattern?] using h
    simp [hv]
  · exact ofNode_of_not_isSound h

end FilterSet

namespace RuleTree

variable {t t' : RuleTree}

/-! ## Faulty nodes -/

/-- Whether a node stands where its parent must not contain it, or is a rule with a blank or invalid
pattern. -/
def Faulty (t : RuleTree) (id : Nat) : Prop :=
  (∃ place holder node, t.parent? id = some place ∧ t.node? place = some holder ∧
      t.node? id = some node ∧ holder.canContain node = false) ∨
    ∃ subject polarity source, t.node? id = some (.rule subject polarity source) ∧
      (Text.isBlank source = true ∨ ∃ e, NamePattern.ofSource source = .error e)

theorem not_isSound_iff {id : Nat} {node : RuleNode} (hn : t.node? id = some node) :
    (∃ subject polarity source, t.node? id = some (.rule subject polarity source) ∧
      (Text.isBlank source = true ∨ ∃ e, NamePattern.ofSource source = .error e)) ↔
        node.isSound = false := by
  simp only [← validPattern?_eq_none_iff, hn, Option.some.injEq]
  rcases node with _ | _ | _ | ⟨s, p, source⟩ <;> simp [RuleNode.isSound, RuleNode.pattern?]

theorem faulty_iff {place id : Nat} {holder node : RuleNode} (hp : t.parent? id = some place)
    (hh : t.node? place = some holder) (hn : t.node? id = some node) :
    t.Faulty id ↔ (holder.canContain node && node.isSound) = false := by
  rw [Faulty, not_isSound_iff hn, Bool.and_eq_false_iff]
  simp [hp, hh, hn]

/-- A fault is seen from the node and its parent alone. -/
def isFaulty (t : RuleTree) (id : Nat) : Bool :=
  (t.node? id).any fun node =>
    !node.isSound || ((t.parent? id).bind t.node?).any fun holder => !holder.canContain node

theorem isFaulty_iff {id : Nat} : t.isFaulty id = true ↔ t.Faulty id := by
  rcases hn : t.node? id with _ | node
  · simp [isFaulty, Faulty, hn]
  · have hsound := not_isSound_iff hn
    rw [Faulty, hsound, isFaulty, hn, Option.any_some, Bool.or_eq_true, or_comm]
    refine or_congr ?_ (by simp)
    rcases hp : t.parent? id with _ | place
    · simp
    · rcases hh : t.node? place with _ | holder <;> simp [hh]

instance (t : RuleTree) (id : Nat) : Decidable (t.Faulty id) := decidable_of_iff _ isFaulty_iff

/-- The faulty nodes can be listed. -/
theorem mem_ids_filter_faulty {id : Nat} : id ∈ t.ids.filter (t.Faulty ·) ↔ t.Faulty id := by
  rw [List.mem_filter, decide_eq_true_iff, and_iff_right_iff_imp]
  rintro (⟨_, _, _, _, _, hn, _⟩ | ⟨_, _, _, hn, _⟩)
  · exact Forest.mem_ids.2 (Forest.contains_of_value? hn)
  · exact Forest.mem_ids.2 (Forest.contains_of_value? hn)

theorem WellFormed.not_faulty_root (ht : t.WellFormed) : ¬ t.Faulty rootId := by
  rintro (⟨_, _, _, hp, _⟩ | ⟨_, _, _, hn, _⟩)
  · rw [ht.parent?_root] at hp
    cases hp
  · rw [ht.node?_root] at hn
    cases hn

/-! ## Removing them -/

theorem slot?_edited_remove (ht : t.WellFormed) {a : Nat} (ha : a ≠ rootId) (i : Nat) :
    (t.edited (.remove a)).forest.slot? i
      = if t.forest.within a i then none else t.forest.slot? i := by
  rw [edited, remove, if_neg ha, Forest.remove_eq_cut ht.links]
  rcases hn : t.node? a with _ | node
  · -- What does not stand has nothing below it.
    have hout : t.forest.contains a = false := by
      simpa [node?, Forest.value?, Forest.contains] using hn
    simp only [Except.map, Except.toOption, Option.getD_none]
    split_ifs with hw
    · rcases Forest.within_iff.1 hw with rfl | ha
      · simpa [Forest.contains] using hout
      · rw [(ht.links.ancestor i a ha).2] at hout
        cases hout
    · rfl
  · exact Forest.slot?_cut t.forest a i

theorem nextId_edited_remove (t : RuleTree) (a : Nat) :
    (t.edited (.remove a)).nextId = t.nextId := by
  simp only [edited]
  rcases hr : t.remove a with _ | ⟨node, t'⟩
  · rfl
  · obtain ⟨-, -, rfl⟩ := remove_eq_ok hr
    exact Forest.size_remove _ _

/-- Whether a tree is what is left of another without its faulty nodes: what is kept is as it was,
and under a node that is kept all but the faulty ones are kept. -/
structure Erasure (t t' : RuleTree) : Prop where
  wellFormed : t'.WellFormed
  nextId : t'.nextId = t.nextId
  kept : ∀ ⦃id : Nat⦄ ⦃s : Forest.Slot RuleNode⦄, t'.forest.slot? id = some s →
    t.forest.slot? id = some s ∧ ¬ t.Faulty id
  child : ∀ ⦃id p : Nat⦄, t'.forest.contains p = true → t.parent? id = some p → ¬ t.Faulty id →
    t'.forest.contains id = true

/-- Removing nodes keeps those which are not among them and stand under one that is kept. -/
theorem run_remove {order : List Nat} (hroot : rootId ∉ order) (ht : t.WellFormed) :
    (t.run (order.map .remove)).nextId = t.nextId ∧
      (∀ id s, (t.run (order.map .remove)).forest.slot? id = some s →
        t.forest.slot? id = some s ∧ id ∉ order) ∧
      ∀ id p, (t.run (order.map .remove)).forest.contains p = true → t.parent? id = some p →
        id ∉ order → (t.run (order.map .remove)).forest.contains id = true := by
  induction order generalizing t with
  | nil =>
    exact ⟨rfl, fun id s hs => ⟨hs, List.not_mem_nil⟩,
      fun id p _ hp _ => Forest.contains_of_parent? hp⟩
  | cons a order ih =>
    rw [List.mem_cons, not_or] at hroot
    obtain ⟨hnext, hkept, hchild⟩ := ih hroot.2 (ht.edited (.remove a))
    have hslot := slot?_edited_remove ht (Ne.symm hroot.1)
    -- What is left was not below the first node that is removed.
    have hout : ∀ id s, (t.run ((a :: order).map .remove)).forest.slot? id = some s →
        t.forest.within a id = false ∧ t.forest.slot? id = some s ∧ id ∉ order := by
      intro id s hs
      obtain ⟨hold, hid⟩ := hkept id s hs
      rw [hslot] at hold
      split_ifs at hold with hw
      exact ⟨Bool.eq_false_iff.2 hw, hold, hid⟩
    refine ⟨hnext.trans (nextId_edited_remove t a), fun id s hs => ?_, fun id p hpc hp hid => ?_⟩
    · obtain ⟨hw, hs, hid⟩ := hout id s hs
      have hne : id ≠ a := by
        rintro rfl
        simp [Forest.within] at hw
      exact ⟨hs, List.not_mem_cons_of_ne_of_not_mem hne hid⟩
    · rw [List.mem_cons, not_or] at hid
      obtain ⟨s, hs⟩ := Forest.contains_iff.1 hpc
      have hwp := (hout p s hs).1
      have hw : ¬ t.forest.within a id = true := by
        rw [Forest.within_iff_of_parent? ht.links hp, hwp]
        simp [hid.1]
      refine hchild id p hpc ?_ hid.2
      rw [parent?, Forest.parent?, hslot, if_neg hw]
      exact hp

theorem erasure_run (ht : t.Reachable) {order : List Nat}
    (horder : ∀ id, id ∈ order ↔ t.Faulty id) :
    t.Erasure (t.run (order.map .remove)) := by
  have hroot : rootId ∉ order := by
    rw [horder]
    exact ht.wellFormed.not_faulty_root
  obtain ⟨hnext, hkept, hchild⟩ := run_remove hroot ht.wellFormed
  simp only [horder] at hkept hchild
  exact ⟨(reachable_run ht _).wellFormed, hnext, hkept, hchild⟩

/-! ## What is left -/

namespace Erasure

variable {id : Nat} {node : RuleNode}

theorem node?_eq (he : t.Erasure t') (hn : t'.node? id = some node) : t.node? id = some node := by
  rw [node?, Forest.value?, Option.map_eq_some_iff] at hn ⊢
  obtain ⟨s, hs, rfl⟩ := hn
  exact ⟨s, (he.kept hs).1, rfl⟩

/-- Of the nodes below a node that is kept, those are left which may stand there and are sound. -/
theorem childNodes_eq (he : t.Erasure t') (ht : t.WellFormed) (hn : t'.node? id = some node) :
    t'.childNodes id
      = (t.childNodes id).filter fun c => node.canContain c.2 && c.2.isSound := by
  have hid := Forest.contains_of_value? hn
  rw [RuleTree.childNodes_eq he.wellFormed.links, RuleTree.childNodes_eq ht.links, he.nextId,
    List.filter_filterMap]
  refine List.filterMap_congr fun c _ => ?_
  rcases hs : t.forest.slot? c with _ | s
  · rcases hs' : t'.forest.slot? c with _ | s'
    · rfl
    · rw [(he.kept hs').1] at hs
      cases hs
  · rw [Option.bind_some]
    -- The node is kept, so a child of it is gone exactly if it is faulty.
    split_ifs with hp
    · have hparent : t.parent? c = some id := by simp [parent?, Forest.parent?, hs, hp]
      have hvalue : t.node? c = some s.value := by simp [node?, Forest.value?, hs]
      have hfaulty := faulty_iff hparent (he.node?_eq hn) hvalue
      rcases hs' : t'.forest.slot? c with _ | s'
      · have hout : t.Faulty c := by
          by_contra hsound
          simpa [Forest.contains, hs'] using he.child hid hparent hsound
        rw [hfaulty] at hout
        simp [Option.filter, hout]
      · obtain ⟨hold, hsound⟩ := he.kept hs'
        rw [hs, Option.some.injEq] at hold
        subst hold
        rw [hfaulty, Bool.not_eq_false] at hsound
        simp [Option.filter, hp, hsound]
    · rcases hs' : t'.forest.slot? c with _ | s'
      · rfl
      · obtain ⟨hold, -⟩ := he.kept hs'
        rw [hs, Option.some.injEq] at hold
        subst hold
        simp [hp]

theorem legalChildren_branchAt (he : t.Erasure t') (ht : t.WellFormed)
    (hn : t'.node? id = some node) :
    (t'.branchAt id node).legalChildren
      = (((t.childNodes id).filter fun c => node.canContain c.2).filter fun c => c.2.isSound).map
          fun c => t'.branchAt c.1 c.2 := by
  rw [RuleTree.legalChildren_branchAt he.wellFormed, he.childNodes_eq ht hn, List.filter_filter,
    List.filter_filter]
  congr 1
  refine List.filter_congr fun c _ => ?_
  cases node.canContain c.2 <;> simp

/-- A node that is kept gives the same filters: what was removed below it gave none. -/
theorem ofBranch_eq (he : t.Erasure t') (ht : t.WellFormed) (hn : t'.node? id = some node) :
    FilterSet.ofBranch (t'.branchAt id node) = FilterSet.ofBranch (t.branchAt id node) := by
  have hoverride : FilterSet.overrideOf (t'.branchAt id node)
      = FilterSet.overrideOf (t.branchAt id node) := by
    rw [FilterSet.overrideOf, FilterSet.overrideOf, he.legalChildren_branchAt ht hn,
      RuleTree.legalChildren_branchAt ht, List.map_map, List.map_map]
    have hmerge := FilterSet.mergeAll_filter (q := fun c : Nat × RuleNode => c.2.isSound)
      (f := fun c => FilterSet.ofNode c.2)
      ((t.childNodes id).filter fun c => node.canContain c.2)
      fun c _ hc => FilterSet.ofNode_of_not_isSound hc
    exact congrArg (fun f : FilterSet =>
      if f.tables.columns.isEmpty then none else some f.tables.columns) hmerge
  unfold FilterSet.ofBranch
  rw [hoverride]
  rfl

theorem filtersAt_eq (he : t.Erasure t') (ht : t.WellFormed) (hn : t'.node? id = some node) :
    t'.filtersAt id = t.filtersAt id := by
  rw [filtersAt, filtersAt, hn, he.node?_eq hn, Option.elim_some, Option.elim_some,
    FilterSet.inside, FilterSet.inside, he.legalChildren_branchAt ht hn,
    RuleTree.legalChildren_branchAt ht, List.map_map, List.map_map]
  have hkept : ∀ c ∈ ((t.childNodes id).filter fun c => node.canContain c.2).filter
      (fun c => c.2.isSound), (FilterSet.ofBranch ∘ fun c => t'.branchAt c.1 c.2) c
        = (FilterSet.ofBranch ∘ fun c => t.branchAt c.1 c.2) c := by
    intro c hc
    simp only [List.mem_filter] at hc
    obtain ⟨⟨hc, hcan⟩, hsound⟩ := hc
    have hmem : c ∈ t'.childNodes id := by
      rw [he.childNodes_eq ht hn, List.mem_filter, hcan, hsound]
      exact ⟨hc, rfl⟩
    exact he.ofBranch_eq ht ((mem_childNodes he.wellFormed.links).1 hmem).2
  rw [List.map_congr_left hkept]
  exact FilterSet.mergeAll_filter _ fun c _ hc => FilterSet.ofBranch_of_not_isSound hc

theorem catalogs_eq (he : t.Erasure t') (ht : t.WellFormed) : t'.catalogs = t.catalogs := by
  rw [catalogs, catalogs, he.childNodes_eq ht he.wellFormed.node?_root, List.filterMap_filter]
  refine List.filterMap_congr fun c _ => ?_
  rcases c with ⟨c, _ | _ | _ | _⟩ <;> simp [RuleNode.canContain, RuleNode.isSound, RuleNode.pattern?]

theorem schemas_eq (he : t.Erasure t') (ht : t.WellFormed) (hn : t'.node? id = some node)
    (hnode : ∀ name, node.canContain (.schema name) = true) : t'.schemas id = t.schemas id := by
  rw [schemas, schemas, he.childNodes_eq ht hn, List.filterMap_filter]
  refine List.filterMap_congr fun c _ => ?_
  rcases c with ⟨c, _ | _ | _ | _⟩ <;> simp [hnode, RuleNode.isSound, RuleNode.pattern?]

theorem candidates_eq (he : t.Erasure t') (ht : t.WellFormed) (key : Option String) :
    t'.candidates key = t.candidates key := by
  refine candidates_congr (he.catalogs_eq ht) (fun c hc => ?_)
    (he.schemas_eq ht he.wellFormed.node?_root fun _ => rfl) key
  obtain ⟨-, name, hn, -⟩ := (mem_catalogs he.wellFormed).1 hc
  exact he.schemas_eq ht hn fun _ => rfl

theorem sieve_eq (he : t.Erasure t') (ht : t.WellFormed) : t'.compile.sieve = t.compile.sieve := by
  have happlicable : ∀ catalogKey schemaKey,
      t'.applicable catalogKey schemaKey = t.applicable catalogKey schemaKey := by
    intro catalogKey schemaKey
    rw [applicable, applicable, he.candidates_eq ht, he.catalogs_eq ht]
  have hfilters : ∀ catalogKey schemaKey,
      t'.schemaEntryAt catalogKey schemaKey = t.schemaEntryAt catalogKey schemaKey := by
    intro catalogKey schemaKey
    rw [schemaEntryAt, schemaEntryAt, ← happlicable]
    congr 2
    refine List.map_congr_left fun id hid => ?_
    obtain ⟨node, hn, -⟩ := ((mem_applicable he.wellFormed).1 hid).isContainer he.wellFormed
    exact he.filtersAt_eq ht hn
  have hentries : t'.catalogEntryAt = t.catalogEntryAt := by
    funext key
    rw [catalogEntryAt, catalogEntryAt, he.candidates_eq ht, funext (hfilters key)]
  rw [compile_sieve he.wellFormed, compile_sieve ht, he.catalogs_eq ht, hentries]

/-- Below a node that is kept nothing is wrong. -/
theorem findingsFrom_eq_nil (he : t.Erasure t') (ht : t.WellFormed) (path : List RuleNode)
    {id : Nat} {node : RuleNode} (hn : t'.node? id = some node) (hsound : node.isSound = true) :
    findingsFrom path (t'.branchAt id node) = [] := by
  induction hn using he.wellFormed.downward generalizing path with
  | step id node hn ih =>
    have hchild : ∀ c ∈ t'.childNodes id, (node.canContain c.2 && c.2.isSound) = true := by
      intro c hc
      rw [he.childNodes_eq ht hn] at hc
      exact (List.mem_filter.1 hc).2
    simp only [Bool.and_eq_true] at hchild
    rw [findingsFrom_eq, List.append_eq_nil_iff, List.append_eq_nil_iff]
    refine ⟨⟨?_, ?_⟩, ?_⟩
    · rw [patternFindings_eq_nil_iff]
      simpa [RuleNode.isSound, Option.all_eq_true, branchAt, Branch.value] using hsound
    · rw [misplacedFindings, children_branchAt he.wellFormed, List.map_eq_nil_iff,
        List.filter_eq_nil_iff]
      intro b hb
      obtain ⟨c, hc, rfl⟩ := List.mem_map.1 hb
      simpa [branchAt, Branch.value] using (hchild c hc).1
    · rw [List.flatMap_eq_nil_iff, RuleTree.legalChildren_branchAt he.wellFormed]
      intro b hb
      obtain ⟨c, hc, rfl⟩ := List.mem_map.1 hb
      have hc := (List.mem_filter.1 hc).1
      exact ih c hc _ (hchild c hc).2

end Erasure

/-- What is faulty counts as absent: without the faulty nodes a tree compiles to the same sieve, and
nothing is found to be wrong. -/
theorem Reachable.compile_erased (ht : t.Reachable) {order : List Nat}
    (horder : ∀ id, id ∈ order ↔ t.Faulty id) :
    (t.run (order.map .remove)).compile.findings = [] ∧
      (t.run (order.map .remove)).compile.sieve = t.compile.sieve ∧
        ∀ path kind, (t.run (order.map .remove)).compile.sieve.decide path kind
          = t.compile.sieve.decide path kind := by
  have he := erasure_run ht horder
  have hsieve := he.sieve_eq ht.wellFormed
  refine ⟨?_, hsieve, fun path kind => by rw [hsieve]⟩
  rw [compile, branch_eq he.wellFormed]
  exact he.findingsFrom_eq_nil ht.wellFormed _ he.wellFormed.node?_root rfl

/-- A catalog in a catalog with an invalid rule in it, a blank include with a misplaced one below
it, and an include whose only column rule is invalid. -/
def brokenRules : RuleTree :=
  empty.run [.attach 0 (.catalog (some "SALES")), .attach 1 (.catalog (some "INNER")),
    .attach 2 (.excludeTable "("), .attach 1 (.includeTable " "), .attach 4 (.includeColumn "K"),
    .attach 4 (.includeTable "X"), .attach 1 (.includeTable "T"), .attach 7 (.includeColumn "[")]

theorem compile_erased_brokenRules :
    brokenRules.Reachable ∧ (∀ id, id ∈ [4, 2, 3, 8, 6] ↔ brokenRules.Faulty id) ∧
      (brokenRules.run ([4, 2, 3, 8, 6].map .remove)).compile.findings = [] ∧
        (brokenRules.run ([4, 2, 3, 8, 6].map .remove)).compile.sieve
          = brokenRules.compile.sieve := by
  have ht : brokenRules.Reachable := reachable_run .empty _
  have hlist : brokenRules.ids.filter (brokenRules.Faulty ·) = [2, 3, 4, 6, 8] := by decide +kernel
  have horder : ∀ id, id ∈ [4, 2, 3, 8, 6] ↔ brokenRules.Faulty id := by
    intro id
    rw [← mem_ids_filter_faulty, hlist]
    simp only [List.mem_cons, List.not_mem_nil]
    tauto
  obtain ⟨hfindings, hsieve, -⟩ := ht.compile_erased horder
  exact ⟨ht, horder, hfindings, hsieve⟩

end RuleTree

end SchemaSieve
