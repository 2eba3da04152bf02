import Mathlib.Tactic
import SchemaSieve.Proofs.Branches
import SchemaSieve.Proofs.Grafting
import SchemaSieve.Proofs.Links
import SchemaSieve.Proofs.Scopes

/-!
# Saving rules as a document

A document has one list for each form of node and no place for nodes that stand where they must
not. Saving a branch and reading it again therefore keeps the legal children of every node and sorts
them by form (`Branch.saved`, `RulesDocument.branches_ofBranches`). What a child gives to a filter
depends on its form alone, so the filters stay as they are; of the findings those about patterns are
left, in another order (`Reachable.compile_saved`).
-/

namespace SchemaSieve

/-! ## Lists -/

section

variable {α β κ : Type}

/-- If only one key yields something, this is all that the keys yield. -/
theorem flatMap_eq_of_unique {F : κ → List β} {k : κ} {ks : List κ} (hks : ks.Nodup)
    (hk : k ∈ ks) (h : ∀ k' ∈ ks, k' ≠ k → F k' = []) : ks.flatMap F = F k := by
  obtain ⟨before, after, rfl⟩ := List.append_of_mem hk
  rw [List.nodup_append] at hks
  obtain ⟨-, hafter, hbefore⟩ := hks
  have hnil : ∀ xs : List κ, xs ⊆ before ++ k :: after → k ∉ xs → xs.flatMap F = [] := by
    intro xs hsub hout
    refine List.flatMap_eq_nil_iff.2 fun x hx => h x (hsub hx) ?_
    rintro rfl
    exact hout hx
  have hout₁ : k ∉ before := fun hmem => hbefore k hmem k List.mem_cons_self rfl
  have hout₂ : k ∉ after := (List.nodup_cons.1 hafter).1
  rw [List.flatMap_append, List.flatMap_cons, hnil before (List.subset_append_left _ _) hout₁,
    hnil after (List.subset_append_of_subset_right _ (List.subset_cons_self _ _)) hout₂,
    List.nil_append, List.append_nil]

/-- Sorting by a key keeps what has one of the keys. -/
theorem perm_flatMap_filter [BEq κ] [LawfulBEq κ] {key : α → κ} :
    ∀ {ks : List κ} {xs : List α}, ks.Nodup → (∀ x ∈ xs, key x ∈ ks) →
      (ks.flatMap fun k => xs.filter fun x => key x == k).Perm xs
  | [], xs, _, h => by
    have hnil : xs = [] := List.eq_nil_iff_forall_not_mem.2 fun x hx => List.not_mem_nil (h x hx)
    rw [hnil]
    rfl
  | k :: ks, xs, hks, h => by
    obtain ⟨hk, hks⟩ := List.nodup_cons.1 hks
    -- What has the first key is split off, and the other keys have no use for it.
    have hrest : ∀ x ∈ xs.filter (fun x => !(key x == k)), key x ∈ ks := by
      intro x hx
      obtain ⟨hx, hne⟩ := List.mem_filter.1 hx
      exact (List.mem_cons.1 (h x hx)).resolve_left (by simpa using hne)
    have hsame : (ks.flatMap fun k' => xs.filter fun x => key x == k')
        = ks.flatMap fun k' => (xs.filter fun x => !(key x == k)).filter fun x => key x == k' := by
      refine List.flatMap_congr fun k' hk' => ?_
      rw [List.filter_filter]
      refine List.filter_congr fun x _ => ?_
      by_cases hx : key x = k'
      · have hne : key x ≠ k := by
          rintro rfl
          exact hk (hx ▸ hk')
        simp [hx, hx ▸ hne]
      · simp [hx]
    rw [List.flatMap_cons, hsame]
    exact ((perm_flatMap_filter hks hrest).append_left _).trans (List.filter_append_perm _ xs)

end

/-! ## Forms -/

/-- What tells in which list of a document a node is kept. -/
def RuleNode.form (node : RuleNode) : Option ObjectKind × Option Polarity :=
  (node.family?, node.polarity?)

theorem RuleNode.form_eq_rule_iff {node : RuleNode} {subject : RuleSubject} {polarity : Polarity} :
    node.form = (some subject.kind, some polarity) ↔
      ∃ source, node = .rule subject polarity source := by
  rcases node with _ | _ | _ | ⟨s, p, source⟩
  · simp [form, family?]
  · simp [form, polarity?]
  · simp [form, polarity?]
  · cases s <;> cases subject <;> simp [form, family?, polarity?, RuleSubject.kind]

theorem RuleNode.form_eq_schema_iff {node : RuleNode} :
    node.form = (some .schema, none) ↔ ∃ name, node = .schema name := by
  rcases node with _ | _ | _ | _ <;> simp [form, family?, polarity?]

theorem RuleNode.form_eq_catalog_iff {node : RuleNode} :
    node.form = (some .catalog, none) ↔ ∃ name, node = .catalog name := by
  rcases node with _ | _ | _ | _ <;> simp [form, family?, polarity?]

/-- The forms of rules, in the order of the lists. -/
def ruleForms : List (Option ObjectKind × Option Polarity) :=
  [(some .table, some .includes), (some .table, some .excludes),
    (some .column, some .includes), (some .column, some .excludes),
    (some .procedure, some .includes), (some .procedure, some .excludes)]

/-- The forms of nodes below a root, in the order of a document. -/
def documentForms : List (Option ObjectKind × Option Polarity) :=
  (some .catalog, none) :: (some .schema, none) :: ruleForms

theorem documentForms_nodup : documentForms.Nodup := by decide

/-- Only a root has no place in a document. -/
theorem RuleNode.form_mem_documentForms {node : RuleNode} (h : node ≠ .root) :
    node.form ∈ documentForms := by
  rcases node with _ | _ | _ | ⟨_ | _ | _, _ | _, _⟩
  · exact absurd rfl h
  all_goals simp [form, family?, polarity?, RuleSubject.kind, documentForms, ruleForms]

/-- Branches sorted by the form of their nodes. -/
def sortForms (bs : List (Branch RuleNode)) : List (Branch RuleNode) :=
  documentForms.flatMap fun form => bs.filter fun b => b.value.form == form

theorem mem_of_mem_sortForms {bs : List (Branch RuleNode)} {b : Branch RuleNode}
    (h : b ∈ sortForms bs) : b ∈ bs := by
  obtain ⟨form, -, hb⟩ := List.mem_flatMap.1 h
  exact (List.mem_filter.1 hb).1

/-- What depends on branches of one form only does not notice that they are sorted. -/
theorem flatMap_sortForms {β : Type} {g : Branch RuleNode → List β}
    {form : Option ObjectKind × Option Polarity} (hform : form ∈ documentForms)
    (hg : ∀ b, b.value.form ≠ form → g b = []) (bs : List (Branch RuleNode)) :
    (sortForms bs).flatMap g = bs.flatMap g := by
  rw [sortForms, List.flatMap_assoc, flatMap_eq_of_unique documentForms_nodup hform]
  · induction bs with
    | nil => rfl
    | cons b bs ih =>
      rw [List.filter_cons, List.flatMap_cons, ← ih]
      split_ifs with hb
      · rfl
      · rw [hg b (by simpa using hb), List.nil_append]
  · intro form' _ hne
    refine List.flatMap_eq_nil_iff.2 fun b hb => hg b ?_
    rw [List.mem_filter, beq_iff_eq] at hb
    rw [hb.2]
    exact hne

theorem filterMap_sortForms {β : Type} {g : Branch RuleNode → Option β}
    {form : Option ObjectKind × Option Polarity} (hform : form ∈ documentForms)
    (hg : ∀ b, b.value.form ≠ form → g b = none) (bs : List (Branch RuleNode)) :
    (sortForms bs).filterMap g = bs.filterMap g := by
  rw [List.filterMap_eq_flatMap_toList, List.filterMap_eq_flatMap_toList]
  refine flatMap_sortForms hform (fun b hb => ?_) bs
  rw [hg b hb]
  rfl

namespace FilterSet

theorem form_of_mem_patterns_ofNode {node : RuleNode} {subject : RuleSubject}
    {polarity : Polarity} {p : NamePattern} (h : p ∈ (ofNode node).patterns subject polarity) :
    node.form = (some subject.kind, some polarity) := by
  obtain ⟨source, hnode, -⟩ := mem_patterns_ofNode.1 h
  exact RuleNode.form_eq_rule_iff.2 ⟨source, hnode⟩

/-- Sorting does not change a merge, as each pattern comes from branches of one form. -/
theorem mergeAll_sortForms {F : Branch RuleNode → FilterSet}
    (hF : ∀ b subject polarity, (F b).patterns subject polarity
      = (ofNode b.value).patterns subject polarity) (bs : List (Branch RuleNode)) :
    mergeAll ((sortForms bs).map F) = mergeAll (bs.map F) := by
  have hform : ∀ (subject : RuleSubject) (polarity : Polarity),
      (some subject.kind, some polarity) ∈ documentForms := by
    rintro (_ | _ | _) (_ | _) <;> simp [RuleSubject.kind, documentForms, ruleForms]
  have hnone : ∀ b subject polarity, b.value.form ≠ (some subject.kind, some polarity) →
      (F b).patterns subject polarity = [] := by
    intro b subject polarity hb
    rw [List.eq_nil_iff_forall_not_mem]
    intro p hp
    rw [hF] at hp
    exact hb (form_of_mem_patterns_ofNode hp)
  refine mergeAll_congr ?_ fun subject polarity _ => ?_
  · rw [List.flatMap_map, List.flatMap_map]
    refine flatMap_sortForms (hform .table .includes) (fun b hb => ?_) bs
    exact List.map_eq_nil_iff.1 (hnone b .table .includes hb)
  · rw [List.flatMap_map, List.flatMap_map]
    exact flatMap_sortForms (hform subject polarity) (hnone · subject polarity) bs

end FilterSet

/-! ## Saved branches -/

namespace Branch

mutual

/-- A branch as it is read again from a document: without what stands where it must not, and with
the children of each node sorted by form. -/
def saved : Branch RuleNode → Branch RuleNode
  | .mk node cs => .mk node (sortForms ((savedAll cs).filter fun c => node.canContain c.value))

def savedAll : List (Branch RuleNode) → List (Branch RuleNode)
  | [] => []
  | c :: cs => c.saved :: savedAll cs

end

theorem savedAll_eq (cs : List (Branch RuleNode)) : savedAll cs = cs.map saved := by
  induction cs with
  | nil => rfl
  | cons c cs ih => rw [savedAll, ih, List.map_cons]

@[simp] theorem value_saved (b : Branch RuleNode) : b.saved.value = b.value := by
  cases b
  rfl

theorem children_saved (b : Branch RuleNode) :
    b.saved.children = sortForms (b.legalChildren.map saved) := by
  obtain ⟨node, cs⟩ := b
  rw [saved, savedAll_eq, List.filter_map]
  simp only [legalChildren, children, Function.comp_def, value_saved]
  rfl

/-- All children that are left may stand where they do. -/
theorem legalChildren_saved (b : Branch RuleNode) :
    b.saved.legalChildren = sortForms (b.legalChildren.map saved) := by
  rw [legalChildren, children_saved, List.filter_eq_self]
  intro c hc
  obtain ⟨d, hd, rfl⟩ := List.mem_map.1 (mem_of_mem_sortForms hc)
  rw [value_saved, value_saved]
  exact (List.mem_filter.1 hd).2

/-- Sorting the children that are left only reorders them. -/
theorem sortForms_legalChildren_perm (b : Branch RuleNode) :
    (sortForms (b.legalChildren.map saved)).Perm (b.legalChildren.map saved) := by
  refine perm_flatMap_filter documentForms_nodup fun c hc => ?_
  obtain ⟨d, hd, rfl⟩ := List.mem_map.1 hc
  rw [value_saved]
  refine RuleNode.form_mem_documentForms fun hroot => ?_
  have hcan := (List.mem_filter.1 hd).2
  rw [hroot, RuleNode.canContain_root] at hcan
  cases hcan

end Branch

/-! ## The sieve of a saved branch -/

namespace FilterSet

theorem overrideOf_saved (b : Branch RuleNode) : overrideOf b.saved = overrideOf b := by
  have hmerge := mergeAll_sortForms (F := fun c => ofNode c.value) (fun _ _ _ => rfl)
    (b.legalChildren.map Branch.saved)
  rw [List.map_map] at hmerge
  simp only [Function.comp_def, Branch.value_saved] at hmerge
  rw [overrideOf, overrideOf, Branch.legalChildren_saved, hmerge]

theorem ofBranch_saved (b : Branch RuleNode) : ofBranch b.saved = ofBranch b := by
  unfold ofBranch
  rw [Branch.value_saved, overrideOf_saved]

theorem inside_saved (b : Branch RuleNode) : inside b.saved = inside b := by
  rw [inside, inside, Branch.legalChildren_saved, mergeAll_sortForms patterns_ofBranch,
    List.map_map, Function.comp_def]
  simp only [ofBranch_saved]

end FilterSet

theorem declaredSchemas_saved (b : Branch RuleNode) :
    declaredSchemas b.saved = declaredSchemas b := by
  have hform : ((some .schema, none) : Option ObjectKind × Option Polarity) ∈ documentForms := by
    decide
  rw [declaredSchemas, declaredSchemas, Branch.legalChildren_saved, filterMap_sortForms hform,
    List.filterMap_map]
  · simp only [Function.comp_def, Branch.value_saved, FilterSet.inside_saved]
  · rintro ⟨_ | _ | _ | _, cs⟩ hb
    · rfl
    · rfl
    · exact absurd rfl hb
    · rfl

theorem declaredCatalogs_saved (b : Branch RuleNode) :
    declaredCatalogs b.saved = declaredCatalogs b := by
  have hform : ((some .catalog, none) : Option ObjectKind × Option Polarity) ∈ documentForms := by
    decide
  rw [declaredCatalogs, declaredCatalogs, Branch.legalChildren_saved, filterMap_sortForms hform,
    List.filterMap_map]
  · simp only [Function.comp_def, Branch.value_saved, FilterSet.inside_saved,
      declaredSchemas_saved]
  · rintro ⟨_ | _ | _ | _, cs⟩ hb
    · rfl
    · exact absurd rfl hb
    · rfl
    · rfl

theorem Sieve.ofBranch_saved (b : Branch RuleNode) : ofBranch b.saved = ofBranch b := by
  rw [ofBranch, ofBranch, declaredCatalogs_saved, declaredSchemas_saved, FilterSet.inside_saved]

/-! ## The findings of a saved branch -/

/-- Whether a finding is about the pattern of a rule. -/
def Finding.isAboutPattern : Finding → Bool
  | invalidPattern .. => true
  | malformedRule _ .emptyPattern => true
  | _ => false

theorem isAboutPattern_of_mem_patternFindings {path : List RuleNode} {node : RuleNode}
    {x : Finding} (h : x ∈ patternFindings path node) : x.isAboutPattern = true := by
  unfold patternFindings at h
  split at h
  · simp at h
  · split_ifs at h
    · rw [List.mem_singleton.1 h]
      rfl
    · split at h
      · simp at h
      · rw [List.mem_singleton.1 h]
        rfl

theorem misplacedFindings_filter (path : List RuleNode) (node : RuleNode)
    (cs : List (Branch RuleNode)) :
    (misplacedFindings path node cs).filter Finding.isAboutPattern = [] := by
  rw [misplacedFindings, List.filter_eq_nil_iff]
  intro x hx
  obtain ⟨c, -, rfl⟩ := List.mem_map.1 hx
  simp [Finding.isAboutPattern]

theorem misplacedFindings_saved (path : List RuleNode) (b : Branch RuleNode) :
    misplacedFindings path b.value b.saved.children = [] := by
  have hlegal := Branch.legalChildren_saved b
  rw [← Branch.children_saved, Branch.legalChildren, List.filter_eq_self, Branch.value_saved]
    at hlegal
  rw [misplacedFindings, List.map_eq_nil_iff, List.filter_eq_nil_iff]
  intro c hc
  simp [hlegal c hc]

/-- Of what was found, that about patterns is found again. -/
theorem findingsFrom_saved (b : Branch RuleNode) :
    ∀ path, (findingsFrom path b.saved).Perm
      ((findingsFrom path b).filter Finding.isAboutPattern) := by
  induction b using Branch.induction with
  | mk node cs ih =>
    intro path
    -- What is found about the pattern of the node stays, what is said of places is gone.
    have hpattern : ∀ n : RuleNode, (patternFindings path n).filter Finding.isAboutPattern
        = patternFindings path n := fun _ =>
      List.filter_eq_self.2 fun _ hx => isAboutPattern_of_mem_patternFindings hx
    have hbelow : ∀ c ∈ (Branch.mk node cs).legalChildren,
        (findingsFrom (path ++ [c.saved.value]) c.saved).Perm
          ((findingsFrom (path ++ [c.value]) c).filter Finding.isAboutPattern) := by
      intro c hc
      rw [Branch.value_saved]
      exact ih c (List.mem_of_mem_filter hc) _
    rw [findingsFrom_eq, findingsFrom_eq, Branch.value_saved, misplacedFindings_saved,
      Branch.legalChildren_saved, List.append_nil, List.filter_append, List.filter_append,
      misplacedFindings_filter, List.append_nil, hpattern, List.filter_flatMap]
    refine .append_left _ (((Branch.sortForms_legalChildren_perm _).flatMap_right _).trans ?_)
    rw [List.flatMap_map]
    exact List.Perm.flatMap_left _ hbelow

/-! ## Documents of branches -/

namespace Branch

/-- The children of one form that a node keeps. -/
def keptAs (holder : RuleNode) (cs : List (Branch RuleNode))
    (form : Option ObjectKind × Option Polarity) : List (Branch RuleNode) :=
  (cs.filter fun c => holder.canContain c.value && c.value.form == form).map saved

theorem children_saved_eq_flatMap (b : Branch RuleNode) :
    b.saved.children = documentForms.flatMap (keptAs b.value b.children) := by
  rw [children_saved, sortForms]
  refine List.flatMap_congr fun form _ => ?_
  rw [keptAs, legalChildren, List.filter_map, List.filter_filter]
  congr 1
  refine List.filter_congr fun c _ => ?_
  rw [Function.comp_apply, value_saved, Bool.and_comm]

theorem keptAs_eq_nil {holder : RuleNode} {form : Option ObjectKind × Option Polarity}
    (h : ∀ node : RuleNode, node.form = form → holder.canContain node = false)
    (cs : List (Branch RuleNode)) : keptAs holder cs form = [] := by
  rw [keptAs, List.map_eq_nil_iff, List.filter_eq_nil_iff]
  intro c _ hc
  rw [Bool.and_eq_true, beq_iff_eq] at hc
  rw [h c.value hc.2] at hc
  cases hc.1

/-- A list of a document, written as branches, if all branches of a form are read for it and written
as they are saved. -/
theorem map_filterMap_eq_keptAs {β : Type} {read : Branch RuleNode → Option β}
    {write : β → Branch RuleNode} {holder : RuleNode} {form : Option ObjectKind × Option Polarity}
    (hread : ∀ b, b.value.form = form →
      holder.canContain b.value = true ∧ (read b).map write = some b.saved)
    (hskip : ∀ b, b.value.form ≠ form → read b = none) (cs : List (Branch RuleNode)) :
    (cs.filterMap read).map write = keptAs holder cs form := by
  rw [keptAs, List.map_filterMap, ← List.filterMap_eq_map, List.filterMap_filter]
  refine List.filterMap_congr fun c _ => ?_
  by_cases hform : c.value.form = form
  · obtain ⟨hcan, hwrite⟩ := hread c hform
    simp [hwrite, hcan, hform]
  · simp [hskip c hform, hform]

/-- Below a node that may contain nothing, nothing is kept. -/
theorem saved_eq_of_barren {b : Branch RuleNode}
    (h : ∀ node, b.value.canContain node = false) : b.saved = .mk b.value [] := by
  have hchildren : b.saved.children = [] := by
    rw [children_saved_eq_flatMap, List.flatMap_eq_nil_iff]
    exact fun form _ => keptAs_eq_nil (fun node _ => h node) _
  rw [← mk_value_children b.saved, hchildren, value_saved]

end Branch

theorem map_leaf_patternsOf {holder : RuleNode} {subject : RuleSubject} {polarity : Polarity}
    (hbarren : ¬ (subject = .table ∧ polarity = .includes))
    (hholder : ∀ source, holder.canContain (.rule subject polarity source) = true)
    (cs : List (Branch RuleNode)) :
    (patternsOf subject polarity cs).map (leaf subject polarity)
      = Branch.keptAs holder cs (some subject.kind, some polarity) := by
  refine Branch.map_filterMap_eq_keptAs (fun b hform => ?_) (fun b hform => ?_) cs
  · obtain ⟨source, hb⟩ := RuleNode.form_eq_rule_iff.1 hform
    have hnothing : ∀ node, b.value.canContain node = false := by
      intro node
      rw [hb]
      cases subject <;> cases polarity <;> first | rfl | exact absurd ⟨rfl, rfl⟩ hbarren
    simp [Branch.saved_eq_of_barren hnothing, hb, hholder, leaf]
  · split
    · rename_i s p source hb
      refine if_neg ?_
      rintro ⟨rfl, rfl⟩
      exact hform (RuleNode.form_eq_rule_iff.2 ⟨source, hb⟩)
    · rfl

/-- A rule that includes tables is saved with its column rules, which are all it may contain. -/
theorem saved_includeTable {b : Branch RuleNode} {source : String}
    (hb : b.value = .includeTable source) :
    b.saved = (IncludeTableRule.of source (patternsOf .column .includes b.children)
      (patternsOf .column .excludes b.children)).branch := by
  have hcolumn : ∀ polarity, (patternsOf .column polarity b.children).map (leaf .column polarity)
      = Branch.keptAs b.value b.children (some .column, some polarity) := fun polarity =>
    map_leaf_patternsOf (by simp) (by rw [hb]; exact fun _ => rfl) b.children
  have hnil : ∀ form : Option ObjectKind × Option Polarity, form.1 ≠ some .column →
      Branch.keptAs b.value b.children form = [] := by
    intro form hform
    -- An include of tables may contain nothing but column rules.
    refine Branch.keptAs_eq_nil (fun node hnode => ?_) _
    rw [hb]
    rcases node with _ | _ | _ | ⟨_ | _ | _, _, _⟩
    all_goals first | rfl | exact absurd (congrArg Prod.fst hnode).symm hform
  have hchildren : b.saved.children
      = Branch.keptAs b.value b.children (some .column, some .includes) ++
        Branch.keptAs b.value b.children (some .column, some .excludes) := by
    rw [Branch.children_saved_eq_flatMap]
    simp [documentForms, ruleForms, hnil]
  have hlists : (IncludeTableRule.of source (patternsOf .column .includes b.children)
      (patternsOf .column .excludes b.children)).branch
        = .mk (.includeTable source)
          ((patternsOf .column .includes b.children).map (leaf .column .includes) ++
            (patternsOf .column .excludes b.children).map (leaf .column .excludes)) := by
    rw [IncludeTableRule.of]
    split_ifs with hempty
    · rw [Bool.and_eq_true, List.isEmpty_iff, List.isEmpty_iff] at hempty
      rw [hempty.1, hempty.2]
      rfl
    · rfl
  rw [hlists, hcolumn, hcolumn, ← hchildren, ← hb, ← Branch.value_saved, Branch.mk_value_children]

section

variable {holder : RuleNode}

theorem branches_ofBranches (hholder : holder.isContainer = true) (cs : List (Branch RuleNode)) :
    (RuleLists.ofBranches cs).branches = ruleForms.flatMap (Branch.keptAs holder cs) := by
  have hcan := RuleNode.canContain_rule hholder
  have hincludes : (cs.filterMap IncludeTableRule.ofBranch?).map IncludeTableRule.branch
      = Branch.keptAs holder cs (some .table, some .includes) := by
    refine Branch.map_filterMap_eq_keptAs (fun b hform => ?_) (fun b hform => ?_) cs
    · have hrule : b.value.form = (some (RuleSubject.kind .table), some .includes) := hform
      obtain ⟨source, hb⟩ := RuleNode.form_eq_rule_iff.1 hrule
      simp [IncludeTableRule.ofBranch?, hb, hcan, saved_includeTable hb]
    · rw [IncludeTableRule.ofBranch?]
      split
      · rename_i source hb
        have hrule : b.value.form = (some (RuleSubject.kind .table), some .includes) :=
          RuleNode.form_eq_rule_iff.2 ⟨source, hb⟩
        exact absurd hrule hform
      · rfl
  simp only [RuleLists.branches, RuleLists.ofBranches]
  rw [hincludes, map_leaf_patternsOf (by simp) (hcan .table .excludes),
    map_leaf_patternsOf (by simp) (hcan .column .includes),
    map_leaf_patternsOf (by simp) (hcan .column .excludes),
    map_leaf_patternsOf (by simp) (hcan .procedure .includes),
    map_leaf_patternsOf (by simp) (hcan .procedure .excludes)]
  simp [ruleForms, RuleSubject.kind]

theorem keptAs_catalog_eq_nil (hholder : ∀ name, holder.canContain (.catalog name) = false)
    (cs : List (Branch RuleNode)) : Branch.keptAs holder cs (some .catalog, none) = [] := by
  refine Branch.keptAs_eq_nil (fun node hform => ?_) cs
  obtain ⟨name, rfl⟩ := RuleNode.form_eq_catalog_iff.1 hform
  exact hholder name

/-- A schema is saved with its rules. -/
theorem saved_schema {b : Branch RuleNode} {name : Option String} (hb : b.value = .schema name) :
    b.saved = SchemaRules.branch ⟨name, .ofBranches b.children⟩ := by
  have hschemas : Branch.keptAs b.value b.children (some .schema, none) = [] := by
    refine Branch.keptAs_eq_nil (fun node hform => ?_) _
    obtain ⟨name, rfl⟩ := RuleNode.form_eq_schema_iff.1 hform
    rw [hb]
    rfl
  have hholder : b.value.isContainer = true := by
    rw [hb]
    rfl
  rw [SchemaRules.branch, branches_ofBranches hholder, ← hb,
    ← Branch.mk_value_children b.saved, Branch.value_saved, Branch.children_saved_eq_flatMap,
    documentForms, List.flatMap_cons, List.flatMap_cons, hschemas,
    keptAs_catalog_eq_nil (by rw [hb]; exact fun _ => rfl), List.nil_append, List.nil_append]

theorem map_schemas_ofBranches (hholder : ∀ name, holder.canContain (.schema name) = true)
    (cs : List (Branch RuleNode)) :
    (cs.filterMap SchemaRules.ofBranch?).map SchemaRules.branch
      = Branch.keptAs holder cs (some .schema, none) := by
  refine Branch.map_filterMap_eq_keptAs (fun b hform => ?_) (fun b hform => ?_) cs
  · obtain ⟨name, hb⟩ := RuleNode.form_eq_schema_iff.1 hform
    simp [SchemaRules.ofBranch?, hb, hholder, saved_schema hb]
  · rw [SchemaRules.ofBranch?]
    split
    · rename_i name hb
      exact absurd (RuleNode.form_eq_schema_iff.2 ⟨name, hb⟩) hform
    · rfl

/-- A catalog is saved with its schemas and its rules. -/
theorem saved_catalog {b : Branch RuleNode} {name : Option String} (hb : b.value = .catalog name) :
    b.saved = CatalogRules.branch
      ⟨name, b.children.filterMap SchemaRules.ofBranch?, .ofBranches b.children⟩ := by
  have hholder : b.value.isContainer = true := by
    rw [hb]
    rfl
  have hschemas : ∀ name, b.value.canContain (.schema name) = true := by
    rw [hb]
    exact fun _ => rfl
  rw [CatalogRules.branch, branches_ofBranches hholder, map_schemas_ofBranches hschemas, ← hb,
    ← Branch.mk_value_children b.saved, Branch.value_saved, Branch.children_saved_eq_flatMap,
    documentForms, List.flatMap_cons, List.flatMap_cons,
    keptAs_catalog_eq_nil (by rw [hb]; exact fun _ => rfl), List.nil_append]

/-- Reading a document of branches again gives the saved branches. -/
theorem RulesDocument.branches_ofBranches (cs : List (Branch RuleNode)) :
    .mk .root (RulesDocument.ofBranches cs).branches = (Branch.mk .root cs).saved := by
  have hcatalogs : (cs.filterMap CatalogRules.ofBranch?).map CatalogRules.branch
      = Branch.keptAs .root cs (some .catalog, none) := by
    refine Branch.map_filterMap_eq_keptAs (fun b hform => ?_) (fun b hform => ?_) cs
    · obtain ⟨name, hb⟩ := RuleNode.form_eq_catalog_iff.1 hform
      simp [CatalogRules.ofBranch?, hb, RuleNode.canContain, saved_catalog hb]
    · rw [CatalogRules.ofBranch?]
      split
      · rename_i name hb
        exact absurd (RuleNode.form_eq_catalog_iff.2 ⟨name, hb⟩) hform
      · rfl
  rw [← Branch.mk_value_children (Branch.mk .root cs).saved, Branch.children_saved_eq_flatMap,
    Branch.value_saved]
  simp only [branches, ofBranches]
  have hroot : RuleNode.root.isContainer = true := rfl
  have hschemas : ∀ name, RuleNode.root.canContain (.schema name) = true := fun _ => rfl
  rw [hcatalogs, map_schemas_ofBranches hschemas, SchemaSieve.branches_ofBranches hroot,
    documentForms, List.flatMap_cons, List.flatMap_cons, List.append_assoc]
  rfl

end

namespace RuleTree

variable {t : RuleTree}

theorem branch_saved (ht : t.WellFormed) : (ofDocument t.toDocument).branch = t.branch.saved := by
  rw [branch_ofDocument, toDocument, RulesDocument.branches_ofBranches, branch_eq ht]
  rfl

/-- A tree that is saved as a document and read again compiles to the same sieve; what was wrong
with its patterns is found again, and nothing else. -/
theorem Reachable.compile_saved (ht : t.Reachable) :
    (RuleTree.ofDocument t.toDocument).compile.sieve = t.compile.sieve ∧
      (RuleTree.ofDocument t.toDocument).compile.findings.Perm
        (t.compile.findings.filter Finding.isAboutPattern) ∧
      ∀ location child parent, Finding.malformedRule location (.misplaced child parent)
        ∉ (RuleTree.ofDocument t.toDocument).compile.findings := by
  have hsaved := branch_saved ht.wellFormed
  have hperm : (RuleTree.ofDocument t.toDocument).compile.findings.Perm
      (t.compile.findings.filter Finding.isAboutPattern) := by
    rw [compile, compile, hsaved, Branch.value_saved]
    exact findingsFrom_saved t.branch _
  refine ⟨?_, hperm, fun location child parent hmem => ?_⟩
  · rw [compile, compile, hsaved]
    exact Sieve.ofBranch_saved t.branch
  · have habout := (List.mem_filter.1 (hperm.mem_iff.1 hmem)).2
    cases habout

/-- Forms in no order, two catalogs where none may stand, patterns that are blank or invalid, and a
number that is free again. -/
def jumbledRules : RuleTree :=
  empty.run [.attach 0 (.excludeTable "("), .attach 0 (.schema (some "S")),
    .attach 0 (.includeTable "A"), .attach 3 (.excludeColumn " "), .attach 3 (.includeColumn "K"),
    .attach 0 (.catalog none), .attach 6 (.includeTable "B"), .attach 6 (.catalog (some "X")),
    .attach 2 (.catalog (some "Y")), .attach 2 (.excludeProcedure "P"), .remove 7]

theorem compile_saved_jumbledRules :
    jumbledRules.Reachable ∧
      (ofDocument jumbledRules.toDocument).compile.sieve = jumbledRules.compile.sieve ∧
        (ofDocument jumbledRules.toDocument).compile.findings.Perm
          (jumbledRules.compile.findings.filter Finding.isAboutPattern) :=
  have ht : jumbledRules.Reachable := reachable_run .empty _
  ⟨ht, ht.compile_saved.1, ht.compile_saved.2.1⟩

end RuleTree

end SchemaSieve
