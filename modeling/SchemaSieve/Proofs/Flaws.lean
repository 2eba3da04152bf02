import Mathlib.Tactic
import SchemaSieve.Proofs.Scopes
import SchemaSieve.Proofs.Branches
import SchemaSieve.Proofs.Walks

/-!
# What compiling reports

A node has a `Flaw` if it is the first on the way from the root that stands where it must not, or if
it is a legal rule with a blank pattern or one that does not compile. Compiling reports each flaw
once, at the place of its node, and nothing else (`Reachable.findings_exact`).

The flaw of a node is computed from the path to it (`flaw?`), so that what is found in a branch can
be compared with the flaws along a walk through it (`findingsFrom_perm`).
-/

namespace SchemaSieve

namespace RuleTree

variable {t : RuleTree} {id place : Nat} {node holder : RuleNode}

/-! ## Flaws -/

/-- `t.Flaw id f`: the finding `f` is what has to be reported of a node. -/
inductive Flaw (t : RuleTree) : Nat → Finding → Prop where
  | misplaced {id place : Nat} {node holder : RuleNode} (hnode : t.node? id = some node)
      (hillegal : ¬ t.Legal id) (hparent : t.parent? id = some place) (hplace : t.Legal place)
      (hholder : t.node? place = some holder) :
      Flaw t id (.malformedRule (t.location id) (.misplaced node holder))
  | blank {id : Nat} {subject : RuleSubject} {polarity : Polarity} {source : String}
      (hnode : t.node? id = some (.rule subject polarity source)) (hlegal : t.Legal id)
      (hblank : Text.isBlank source = true) :
      Flaw t id (.malformedRule (t.location id) .emptyPattern)
  | invalid {id : Nat} {subject : RuleSubject} {polarity : Polarity} {source : String}
      {e : Regex.CompileError} (hnode : t.node? id = some (.rule subject polarity source))
      (hlegal : t.Legal id) (hblank : Text.isBlank source = false)
      (hsource : NamePattern.ofSource source = .error e) :
      Flaw t id (.invalidPattern source (t.location id) e)

theorem Flaw.contains {f : Finding} (h : t.Flaw id f) : t.forest.contains id = true := by
  cases h with
  | misplaced hn => exact Forest.contains_of_value? hn
  | blank hn => exact Forest.contains_of_value? hn
  | invalid hn => exact Forest.contains_of_value? hn

/-! ## Paths -/

/-- The nodes from the root down to a node. -/
def path (t : RuleTree) (id : Nat) : List RuleNode := (t.forest.lineage id).filterMap t.node?

theorem path_root (ht : t.WellFormed) : t.path rootId = [.root] := by
  rw [path, Forest.lineage, Forest.ancestors_of_parent?_eq_none ht.parent?_root, List.reverse_nil,
    List.nil_append, List.filterMap_cons_some ht.node?_root, List.filterMap_nil]

theorem path_eq_append (hn : t.node? id = some node) :
    t.path id = ((t.ancestors id).reverse.filterMap t.node?) ++ [node] := by
  rw [path, Forest.lineage, List.filterMap_append, List.filterMap_cons_some hn, List.filterMap_nil]
  rfl

theorem path_child (ht : t.WellFormed) (hp : t.parent? id = some place)
    (hn : t.node? id = some node) : t.path id = t.path place ++ [node] := by
  rw [path_eq_append hn, ancestors, Forest.ancestors_of_parent? ht.links hp, List.reverse_cons]
  rfl

/-- Whether each link of a way down keeps to the placement table. -/
def LegalPath (path : List RuleNode) : Prop := path.IsChain fun a b => a.canContain b = true

instance (path : List RuleNode) : Decidable (LegalPath path) :=
  inferInstanceAs (Decidable (path.IsChain _))

/-- A node is legal if its parent is and may contain it. -/
theorem legal_iff_of_parent? (ht : t.WellFormed) (hp : t.parent? id = some place)
    (hh : t.node? place = some holder) (hn : t.node? id = some node) :
    t.Legal id ↔ t.Legal place ∧ holder.canContain node = true := by
  constructor
  · intro h
    cases h with
    | root =>
      rw [ht.parent?_root] at hp
      cases hp
    | child hplace hparent hholder hnode hcan =>
      obtain rfl := Option.some.inj (hp.symm.trans hparent)
      obtain rfl := Option.some.inj (hh.symm.trans hholder)
      obtain rfl := Option.some.inj (hn.symm.trans hnode)
      exact ⟨hplace, hcan⟩
  · rintro ⟨hplace, hcan⟩
    exact .child hplace hp hh hn hcan

/-- Legality is read off the path. -/
theorem legalPath_iff (ht : t.WellFormed) :
    ∀ {id : Nat}, t.forest.contains id = true → (LegalPath (t.path id) ↔ t.Legal id) := by
  intro id
  induction id using Nat.strong_induction_on with
  | _ id ih =>
    intro hid
    by_cases hroot : id = rootId
    · subst hroot
      rw [path_root ht]
      exact iff_of_true (.singleton _) .root
    · obtain ⟨place, hp⟩ := ht.under hid hroot
      obtain ⟨hlt, hplace⟩ := ht.links.parent hp
      obtain ⟨node, hn⟩ := Forest.contains_iff_value?.1 hid
      obtain ⟨holder, hh⟩ := Forest.contains_iff_value?.1 hplace
      rw [legal_iff_of_parent? ht hp hh hn, ← ih place hlt hplace, path_child ht hp hn,
        path_eq_append hh, LegalPath, LegalPath, List.isChain_append]
      simp

/-! ## The flaw of a node -/

/-- The flaw of a node, if it has one. -/
def flaw? (t : RuleTree) (id : Nat) : Option Finding := do
  let node ← t.node? id
  if LegalPath (t.path id) then (patternFindings (t.path id) node).head?
  else
    let place ← t.parent? id
    let holder ← t.node? place
    if LegalPath (t.path place) then some (.malformedRule (t.location id) (.misplaced node holder))
    else none

/-- At most one thing is wrong with a pattern. -/
theorem toList_head?_patternFindings (path : List RuleNode) (node : RuleNode) :
    (patternFindings path node).head?.toList = patternFindings path node := by
  unfold patternFindings
  split
  · rfl
  · split_ifs
    · rfl
    · split <;> rfl

section

variable (ht : t.WellFormed)

include ht in
theorem flaw?_of_legal (hlegal : t.Legal id) (hn : t.node? id = some node) :
    (t.flaw? id).toList = patternFindings (t.path id) node := by
  have hpath := (legalPath_iff ht (Forest.contains_of_value? hn)).2 hlegal
  rw [flaw?, hn]
  simp only [Option.bind_eq_bind, Option.bind_some, if_pos hpath, toList_head?_patternFindings]

include ht in
theorem flaw?_of_misplaced (hp : t.parent? id = some place) (hh : t.node? place = some holder)
    (hn : t.node? id = some node) (hplace : t.Legal place) (hcan : holder.canContain node = false) :
    t.flaw? id = some (.malformedRule (t.location id) (.misplaced node holder)) := by
  have hpath : ¬ LegalPath (t.path id) := by
    rw [legalPath_iff ht (Forest.contains_of_value? hn), legal_iff_of_parent? ht hp hh hn, hcan]
    simp
  have hpath' := (legalPath_iff ht (Forest.contains_of_value? hh)).2 hplace
  rw [flaw?, hn]
  simp [hpath, hp, hh, hpath']

include ht in
theorem flaw?_of_not_legal (hp : t.parent? id = some place) (hplace : ¬ t.Legal place) :
    t.flaw? id = none := by
  have hid := Forest.contains_of_parent? hp
  obtain ⟨node, hn⟩ := Forest.contains_iff_value?.1 hid
  obtain ⟨holder, hh⟩ := Forest.contains_iff_value?.1 (ht.links.parent hp).2
  have hn : t.node? id = some node := hn
  have hh : t.node? place = some holder := hh
  have hpath : ¬ LegalPath (t.path id) := by
    rw [legalPath_iff ht hid, legal_iff_of_parent? ht hp hh hn]
    exact fun h => hplace h.1
  have hpath' : ¬ LegalPath (t.path place) := by
    rwa [legalPath_iff ht (ht.links.parent hp).2]
  simp [flaw?, hn, hpath, hp, hh, hpath']

end

theorem mem_patternFindings_iff {path : List RuleNode} {f : Finding} :
    f ∈ patternFindings path node ↔
      ∃ subject polarity source, node = .rule subject polarity source ∧
      ((Text.isBlank source = true ∧ f = .malformedRule (pathText path) .emptyPattern) ∨
        (Text.isBlank source = false ∧ ∃ e, NamePattern.ofSource source = .error e ∧
          f = .invalidPattern source (pathText path) e)) := by
  rcases node with _ | _ | _ | ⟨s, q, source⟩
  · simp [patternFindings, RuleNode.pattern?]
  · simp [patternFindings, RuleNode.pattern?]
  · simp [patternFindings, RuleNode.pattern?]
  · simp only [patternFindings, RuleNode.pattern?, RuleNode.rule.injEq]
    rcases hb : Text.isBlank source
    · rcases hsource : NamePattern.ofSource source with e | p <;> simp [hb, hsource]
    · simp [hb]

/-- What is computed is what has to be reported. -/
theorem flaw?_eq_some_iff (ht : t.WellFormed) {f : Finding} :
    t.flaw? id = some f ↔ t.Flaw id f := by
  constructor
  · intro h
    obtain ⟨node, hn, -⟩ := Option.bind_eq_some_iff.1 h
    by_cases hlegal : t.Legal id
    · have hmem : f ∈ patternFindings (t.path id) node := by
        rw [← flaw?_of_legal ht hlegal hn, h]
        exact List.mem_singleton_self f
      obtain ⟨s, q, source, rfl, ⟨hb, rfl⟩ | ⟨hb, e, hsource, rfl⟩⟩ :=
        mem_patternFindings_iff.1 hmem
      · exact .blank hn hlegal hb
      · exact .invalid hn hlegal hb hsource
    · have hroot : id ≠ rootId := by
        rintro rfl
        exact hlegal .root
      obtain ⟨place, hp⟩ := ht.under (Forest.contains_of_value? hn) hroot
      obtain ⟨holder, hh⟩ := Forest.contains_iff_value?.1 (ht.links.parent hp).2
      by_cases hplace : t.Legal place
      · have hcan : holder.canContain node = false := by
          rw [legal_iff_of_parent? ht hp hh hn, not_and, Bool.not_eq_true] at hlegal
          exact hlegal hplace
        rw [flaw?_of_misplaced ht hp hh hn hplace hcan, Option.some.injEq] at h
        rw [← h]
        exact .misplaced hn hlegal hp hplace hh
      · rw [flaw?_of_not_legal ht hp hplace] at h
        cases h
  · intro h
    have hpattern : ∀ {node : RuleNode}, t.node? id = some node → t.Legal id →
        f ∈ patternFindings (t.path id) node → t.flaw? id = some f := by
      intro node hn hlegal hmem
      rw [← flaw?_of_legal ht hlegal hn] at hmem
      simpa using hmem
    cases h with
    | misplaced hn hillegal hp hplace hh =>
      rw [legal_iff_of_parent? ht hp hh hn, not_and, Bool.not_eq_true] at hillegal
      exact flaw?_of_misplaced ht hp hh hn hplace (hillegal hplace)
    | blank hn hlegal hb =>
      exact hpattern hn hlegal (mem_patternFindings_iff.2 ⟨_, _, _, rfl, .inl ⟨hb, rfl⟩⟩)
    | invalid hn hlegal hb hsource =>
      exact hpattern hn hlegal
        (mem_patternFindings_iff.2 ⟨_, _, _, rfl, .inr ⟨hb, _, hsource, rfl⟩⟩)

/-! ## What is found in a branch -/

theorem map_fst_childNodes (ht : t.WellFormed) (id : Nat) :
    (t.childNodes id).map (·.1) = t.children id := by
  rw [childNodes, List.map_filterMap]
  have hchild : ∀ c ∈ t.children id, ((t.node? c).map (c, ·)).map (·.1) = some c := by
    intro c hc
    obtain ⟨node, hn⟩ :=
      Forest.contains_iff_value?.1 (Forest.contains_of_parent? (ht.links.mem_children.1 hc))
    rw [show t.node? c = some node from hn]
    rfl
  rw [List.filterMap_congr hchild, List.filterMap_some]

/-- The flaws of a node and of all below it. -/
def flawsWithin (t : RuleTree) (id : Nat) : List Finding := (t.forest.subtree id).filterMap t.flaw?

theorem flawsWithin_eq (ht : t.WellFormed) (hid : t.forest.contains id = true) :
    t.flawsWithin id
      = (t.flaw? id).toList ++ (t.childNodes id).flatMap fun c => t.flawsWithin c.1 := by
  have hbelow : ((t.childNodes id).flatMap fun c => t.flawsWithin c.1)
      = (t.children id).flatMap t.flawsWithin := by
    rw [← map_fst_childNodes ht, List.flatMap_map]
  rw [flawsWithin, Forest.subtree_eq ht.links hid, List.filterMap_cons, List.filterMap_flatMap,
    hbelow]
  rcases t.flaw? id <;> rfl

/-- Below what stands where it must not nothing has a flaw. -/
theorem flawsWithin_of_not_legal (ht : t.WellFormed) (hn : t.node? id = some node) :
    ¬ t.Legal id → (t.childNodes id).flatMap (fun c => t.flawsWithin c.1) = [] := by
  induction hn using ht.downward with
  | step id node hn ih =>
    intro hlegal
    refine List.flatMap_eq_nil_iff.2 fun ⟨c, child⟩ hc => ?_
    obtain ⟨hp, hchild⟩ := (mem_childNodes ht.links).1 hc
    have hillegal : ¬ t.Legal c := by
      rw [legal_iff_of_parent? ht hp hn hchild]
      exact fun h => hlegal h.1
    have hbelow := ih (c, child) hc hillegal
    rw [flawsWithin_eq ht (Forest.contains_of_value? hchild), hbelow,
      flaw?_of_not_legal ht hp hlegal]
    rfl

/-- What is found in the branch of a legal node are the flaws of the node and of all below it. -/
theorem findingsFrom_perm (ht : t.WellFormed) (hn : t.node? id = some node) :
    t.Legal id → (findingsFrom (t.path id) (t.branchAt id node)).Perm (t.flawsWithin id) := by
  induction hn using ht.downward with
  | step id node hn ih =>
    intro hlegal
    have hmisplaced : misplacedFindings (t.path id) node (t.branchAt id node).children
        = ((t.childNodes id).filter fun c => !node.canContain c.2).flatMap
            fun c => t.flawsWithin c.1 := by
      rw [misplacedFindings, children_branchAt ht, List.filter_map, List.map_map,
        List.map_eq_flatMap]
      refine List.flatMap_congr fun c hc => ?_
      obtain ⟨c, child⟩ := c
      obtain ⟨hc, hcan⟩ := List.mem_filter.1 hc
      obtain ⟨hp, hchild⟩ := (mem_childNodes ht.links).1 hc
      have hcan : node.canContain child = false := by simpa [branchAt, Branch.value] using hcan
      have hillegal : ¬ t.Legal c := by
        rw [legal_iff_of_parent? ht hp hn hchild, hcan]
        simp
      rw [flawsWithin_eq ht (Forest.contains_of_value? hchild),
        flawsWithin_of_not_legal ht hchild hillegal, flaw?_of_misplaced ht hp hn hchild hlegal hcan,
        show t.location c = pathText (t.path c) from rfl, path_child ht hp hchild]
      rfl
    have hbelow : ((t.branchAt id node).legalChildren.flatMap
          fun c => findingsFrom (t.path id ++ [c.value]) c).Perm
        (((t.childNodes id).filter fun c => node.canContain c.2).flatMap
          fun c => t.flawsWithin c.1) := by
      rw [legalChildren_branchAt ht, List.flatMap_map]
      refine List.Perm.flatMap_left _ fun c hc => ?_
      obtain ⟨c, child⟩ := c
      obtain ⟨hc, hcan⟩ := List.mem_filter.1 hc
      obtain ⟨hp, hchild⟩ := (mem_childNodes ht.links).1 hc
      have hpath := ih (c, child) hc ((legal_iff_of_parent? ht hp hn hchild).2 ⟨hlegal, hcan⟩)
      rwa [path_child ht hp hchild] at hpath
    rw [findingsFrom_eq, flawsWithin_eq ht (Forest.contains_of_value? hn),
      flaw?_of_legal ht hlegal hn, List.append_assoc]
    refine List.Perm.append_left _ ?_
    rw [show (t.branchAt id node).value = node from rfl, hmisplaced]
    refine (List.perm_append_comm.trans (hbelow.append_right _)).trans ?_
    rw [← List.flatMap_append]
    exact (List.filter_append_perm _ _).flatMap_right _

/-! ## What is found in a tree -/

theorem preorder_eq (ht : t.WellFormed) : t.forest.preorder = t.forest.subtree rootId := by
  rw [Forest.preorder, ht.roots_eq, List.flatMap_singleton]

theorem findings_perm (ht : t.WellFormed) :
    t.compile.findings.Perm (t.forest.preorder.filterMap t.flaw?) := by
  have hperm := findingsFrom_perm ht ht.node?_root .root
  rw [path_root ht] at hperm
  rw [compile, branch_eq ht, preorder_eq ht]
  exact hperm

/-- Compiling reports every flaw of a tree once and nothing else: what it reports belongs, one by
one, to the nodes that have a flaw. -/
theorem Reachable.findings_exact (ht : t.Reachable) :
    (∃ flawed : List Nat, flawed.Nodup ∧ (∀ id, id ∈ flawed ↔ ∃ f, t.Flaw id f) ∧
        List.Forall₂ t.Flaw flawed t.compile.findings) ∧
      (∀ id f g, t.Flaw id f → t.Flaw id g → f = g) ∧
        (t.compile.isClean = true ↔ ∀ id f, ¬ t.Flaw id f) := by
  have hwf := ht.wellFormed
  have hwalk : t.forest.preorder.Perm t.ids := Forest.perm_preorder hwf.links
  have hflaws : List.Forall₂ t.Flaw (t.forest.preorder.filter fun id => (t.flaw? id).isSome)
      (t.forest.preorder.filterMap t.flaw?) :=
    (forall₂_filter_filterMap t.flaw? _).imp fun _ _ => (flaw?_eq_some_iff hwf).1
  -- The findings come in another order than the walk, so the nodes are put into theirs.
  obtain ⟨flawed, hperm, hfindings⟩ : Relation.Comp List.Perm (List.Forall₂ t.Flaw) _
      t.compile.findings := by
    rw [← List.forall₂_comp_perm_eq_perm_comp_forall₂]
    exact ⟨_, hflaws, (findings_perm hwf).symm⟩
  have hmem : ∀ id, id ∈ flawed ↔ ∃ f, t.Flaw id f := by
    intro id
    rw [← hperm.mem_iff, List.mem_filter, hwalk.mem_iff, Option.isSome_iff_exists]
    simp only [flaw?_eq_some_iff hwf, and_iff_right_iff_imp]
    rintro ⟨f, hf⟩
    exact Forest.mem_ids.2 hf.contains
  refine ⟨⟨flawed, ?_, hmem, hfindings⟩, fun id f g hf hg => ?_, ?_⟩
  · exact hperm.nodup_iff.1 ((hwalk.nodup_iff.2 (Forest.ids_nodup _)).filter _)
  · rw [← flaw?_eq_some_iff hwf] at hf hg
    exact Option.some.inj (hf.symm.trans hg)
  · rw [Compilation.isClean, List.isEmpty_iff_length_eq_zero, ← hfindings.length_eq,
      List.length_eq_zero_iff, List.eq_nil_iff_forall_not_mem]
    simp only [hmem, not_exists]

/-- A catalog in a catalog with an invalid rule in it, two invalid rules that say the same, one with
a misplaced rule below it, and a blank include with an invalid column rule below it. -/
def twinFlaws : RuleTree :=
  empty.run [.attach 0 (.catalog (some "SALES")), .attach 1 (.catalog (some "INNER")),
    .attach 2 (.excludeTable "("), .attach 0 (.excludeTable "["), .attach 4 (.includeTable " "),
    .attach 0 (.excludeTable "["), .attach 0 (.includeTable " "), .attach 7 (.includeColumn "(")]

theorem findings_exact_twinFlaws :
    twinFlaws.Reachable ∧
      (∃ flawed : List Nat, flawed.Nodup ∧ (∀ id, id ∈ flawed ↔ ∃ f, twinFlaws.Flaw id f) ∧
        List.Forall₂ twinFlaws.Flaw flawed twinFlaws.compile.findings) ∧
        twinFlaws.compile.findings.length = 6 := by
  have ht : twinFlaws.Reachable := reachable_run .empty _
  exact ⟨ht, ht.findings_exact.1, by decide +kernel⟩

end RuleTree

end SchemaSieve
