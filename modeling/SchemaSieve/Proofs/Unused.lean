import Mathlib.Tactic
import SchemaSieve.Check.Remark
import SchemaSieve.Proofs.Containers
import SchemaSieve.Proofs.Links
import SchemaSieve.Proofs.Shapes

/-!
# Rules that describe nothing can go

Removing a rule that excludes leaves all containers, all includes and all other rules where they
are (`validRules_without`), so it matters only to names which the rule accepts and about which it
has a say. A rule that is reported with no object of a snapshot has a say about none that is
decided; without it every object is decided as before (`Reachable.explained`).
-/

namespace SchemaSieve

theorem RuleNode.canContain_excludes (subject : RuleSubject) (source : String) (child : RuleNode) :
    (RuleNode.rule subject .excludes source).canContain child = false := by
  cases subject <;> rfl

namespace RuleTree

variable {t : RuleTree} {id : Nat} {subject : RuleSubject} {source : String}

/-- A tree without a node and all that stands below it. -/
def without (t : RuleTree) (id : Nat) : RuleTree := ⟨t.forest.cut id⟩

/-! ## What stays -/

theorem Legal.within_eq_false (ht : t.WellFormed)
    (hn : t.node? id = some (.rule subject .excludes source)) {i : Nat} (hi : t.Legal i)
    (hne : i ≠ id) : t.forest.within id i = false := by
  induction hi with
  | root =>
    rw [Forest.within_eq_false_iff, Forest.ancestors_of_parent?_eq_none ht.parent?_root]
    exact ⟨hne, List.not_mem_nil⟩
  | @child place i holder node hplace hparent hholder hnode hcan ih =>
    -- Nothing that is legal stands below the rule.
    have hne' : place ≠ id := by
      rintro rfl
      rw [hn, Option.some.injEq] at hholder
      rw [← hholder, RuleNode.canContain_excludes] at hcan
      cases hcan
    exact (Forest.within_eq_false_iff_of_parent? ht.links hparent).2 ⟨hne, ih hne'⟩

section

variable (ht : t.WellFormed) (hn : t.node? id = some (.rule subject .excludes source))

include ht hn

theorem remove_eq_without :
    t.remove id = .ok (.rule subject .excludes source, t.without id) := by
  have hne : id ≠ rootId := by
    rintro rfl
    rw [ht.node?_root] at hn
    cases hn
  rw [remove, if_neg hne, hn, Forest.remove_eq_cut ht.links]
  rfl

theorem WellFormed.without : (t.without id).WellFormed :=
  ht.remove (remove_eq_without ht hn)

end

/-- Below a place that stays, the node alone is gone. -/
theorem childNodes_without (ht : t.WellFormed) {place : Nat}
    (hplace : t.forest.within id place = false) :
    (t.without id).childNodes place = (t.childNodes place).filter (·.1 != id) := by
  have hchildren : (t.without id).children place = (t.children place).filter (· != id) := by
    refine (Forest.under_cut t.forest id (some place)).trans ?_
    rw [Option.any_some, hplace, if_neg Bool.false_ne_true]
    rfl
  rw [childNodes, hchildren, childNodes, List.filterMap_filter, List.filter_filterMap]
  refine List.filterMap_congr fun c hc => ?_
  by_cases hne : c = id
  · rcases t.node? c with _ | node <;> simp [Option.filter, hne]
  · have hout : t.forest.within id c = false :=
      (Forest.within_eq_false_iff_of_parent? ht.links (ht.links.mem_children.1 hc)).2 ⟨hne, hplace⟩
    have hnode : (t.without id).node? c = t.node? c := Forest.value?_cut hout
    rw [hnode]
    rcases t.node? c with _ | node <;> simp [Option.filter, hne]

theorem validRules_without (ht : t.WellFormed) {place : Nat}
    (hplace : t.forest.within id place = false) (s : RuleSubject) (q : Polarity) :
    (t.without id).validRules s q place = (t.validRules s q place).filter (·.1 != id) := by
  rw [validRules, validRules, childNodes_without ht hplace, List.filterMap_filter,
    List.filter_filterMap]
  refine List.filterMap_congr fun c _ => ?_
  rcases c with ⟨c, _ | _ | _ | ⟨s', q', source'⟩⟩
  · simp
  · simp
  · simp
  · by_cases hsq : s' = s ∧ q' = q
    · rcases hv : validPattern? source' with _ | p <;> by_cases hc : c = id <;>
        simp [Option.filter, hsq, hv, hc]
    · simp [hsq]

section

variable (ht : t.WellFormed) (hn : t.node? id = some (.rule subject .excludes source))

include ht hn

/-- What does not ask for the rule sees the same nodes below a place that stays. -/
theorem filterMap_childNodes_without {place : Nat} (hplace : t.forest.within id place = false)
    {β : Type} {g : Nat × RuleNode → Option β}
    (hg : g (id, .rule subject .excludes source) = none) :
    ((t.without id).childNodes place).filterMap g = (t.childNodes place).filterMap g := by
  rw [childNodes_without ht hplace, List.filterMap_filter]
  refine List.filterMap_congr fun ⟨c, node⟩ hc => ?_
  by_cases hne : c = id
  · subst hne
    obtain rfl := Option.some.inj (hn.symm.trans ((mem_childNodes ht.links).1 hc).2)
    simp [hg]
  · simp [hne]

/-- Rules of another form all stay. -/
theorem validRules_without_of_ne {place : Nat} (hplace : t.forest.within id place = false)
    {s : RuleSubject} {q : Polarity} (hsq : ¬ (subject = s ∧ .excludes = q)) :
    (t.without id).validRules s q place = t.validRules s q place :=
  filterMap_childNodes_without ht hn hplace (if_neg hsq)

theorem within_rootId : t.forest.within id rootId = false := by
  have hne : rootId ≠ id := by
    rintro rfl
    rw [ht.node?_root] at hn
    cases hn
  exact Legal.root.within_eq_false ht hn hne

theorem LegalCatalog.within_eq_false {key : Option String} {c : Nat} (hc : t.LegalCatalog key c) :
    t.forest.within id c = false := by
  obtain ⟨hl, name, hcn, -⟩ := hc
  refine hl.within_eq_false ht hn ?_
  rintro rfl
  rw [hn] at hcn
  cases hcn

theorem Applies.within_eq_false {catalogKey schemaKey : Option String} {place : Nat}
    (h : t.Applies catalogKey schemaKey place) : t.forest.within id place = false := by
  rcases h with ⟨hl, ⟨name, hs, -⟩, -⟩ | hc | rfl
  · refine hl.within_eq_false ht hn ?_
    rintro rfl
    rw [hn] at hs
    cases hs
  · exact hc.within_eq_false ht hn
  · exact within_rootId ht hn

theorem catalogs_without : (t.without id).catalogs = t.catalogs :=
  filterMap_childNodes_without ht hn (within_rootId ht hn) rfl

theorem schemas_without {place : Nat} (hplace : t.forest.within id place = false) :
    (t.without id).schemas place = t.schemas place :=
  filterMap_childNodes_without ht hn hplace rfl

theorem sameContainers_without : t.SameContainers (t.without id) := by
  refine ⟨catalogs_without ht hn, candidates_congr (catalogs_without ht hn) (fun c hc => ?_)
    (schemas_without ht hn (within_rootId ht hn))⟩
  rw [catalogs_without ht hn] at hc
  exact schemas_without ht hn (((mem_catalogs ht).1 hc).within_eq_false ht hn)

theorem applies_without {catalogKey schemaKey : Option String} {place : Nat} :
    (t.without id).Applies catalogKey schemaKey place ↔ t.Applies catalogKey schemaKey place :=
  (sameContainers_without ht hn).applies_iff ht (ht.without hn)

theorem tableIncludes_without (catalogKey schemaKey : Option String) :
    (t.without id).tableIncludes catalogKey schemaKey = t.tableIncludes catalogKey schemaKey := by
  rw [tableIncludes, tableIncludes, (sameContainers_without ht hn).applicable_eq]
  refine List.flatMap_congr fun place hplace => ?_
  have happ := (mem_applicable ht).1 hplace
  exact validRules_without_of_ne ht hn (happ.within_eq_false ht hn) (by simp)

/-! ## Where nothing changes -/

/-- Where the rule accepts no name that is asked for, names pass as before. -/
theorem passesIn_without {catalogKey schemaKey : Option String} {s : RuleSubject} {name : String}
    (hsilent : ∀ place p, t.Applies catalogKey schemaKey place →
      (id, p) ∈ t.validRules s .excludes place → p.accepts name = false) :
    (t.without id).PassesIn catalogKey schemaKey s name ↔
      t.PassesIn catalogKey schemaKey s name := by
  have hincludes : ∀ p, (∃ place, (t.without id).Applies catalogKey schemaKey place ∧
        (t.without id).HasRule place s .includes p) ↔
      ∃ place, t.Applies catalogKey schemaKey place ∧ t.HasRule place s .includes p := by
    intro p
    refine exists_congr fun place => ?_
    rw [applies_without ht hn]
    refine and_congr_right fun happ => ?_
    rw [hasRule_iff (ht.without hn), hasRule_iff ht,
      validRules_without_of_ne ht hn (happ.within_eq_false ht hn) (by simp)]
  have hexcludes : ∀ {place : Nat}, t.Applies catalogKey schemaKey place → ∀ p i,
      (i, p) ∈ (t.without id).validRules s .excludes place ↔
        (i, p) ∈ t.validRules s .excludes place ∧ i ≠ id := by
    intro place happ p i
    rw [validRules_without ht (happ.within_eq_false ht hn), List.mem_filter, bne_iff_ne]
  refine and_congr (or_congr (forall_congr' fun p => not_congr (hincludes p))
    (exists_congr fun p => and_congr_left fun _ => hincludes p)) (forall_congr' fun p => ?_)
  simp only [hasRule_iff (ht.without hn), hasRule_iff ht]
  constructor
  · rintro h ⟨place, happ, i, hi⟩
    by_cases hne : i = id
    · exact hsilent place p happ (hne ▸ hi)
    · exact h ⟨place, (applies_without ht hn).2 happ, i, (hexcludes happ p i).2 ⟨hi, hne⟩⟩
  · rintro h ⟨place, happ, i, hi⟩
    have happ := (applies_without ht hn).1 happ
    exact h ⟨place, happ, i, ((hexcludes happ p i).1 hi).1⟩

/-- Whether a rule, if it is about columns, is about those of all tables: it stands directly in a
container. -/
def Common (t : RuleTree) (id : Nat) (subject : RuleSubject) : Prop :=
  subject = .column → ∃ place holder, t.parent? id = some place ∧ t.node? place = some holder ∧
    holder.isContainer = true

/-- The column rules below an include that applies are as before. -/
theorem validRules_column_without (hcommon : t.Common id subject)
    {catalogKey schemaKey : Option String} {i : Nat × NamePattern}
    (hi : i ∈ t.tableIncludes catalogKey schemaKey) (q : Polarity) :
    (t.without id).validRules .column q i.1 = t.validRules .column q i.1 := by
  obtain ⟨place, hplace, hi⟩ := List.mem_flatMap.1 hi
  obtain ⟨source', hp, hin, -⟩ := (mem_validRules ht).1 hi
  have happ := (mem_applicable ht).1 hplace
  have hne : i.1 ≠ id := by
    intro heq
    rw [heq, hn] at hin
    cases hin
  have hwithin : t.forest.within id i.1 = false :=
    (Forest.within_eq_false_iff_of_parent? ht.links hp).2 ⟨hne, happ.within_eq_false ht hn⟩
  rw [validRules_without ht hwithin, List.filter_eq_self]
  rintro ⟨c, p⟩ hc
  obtain ⟨source'', hcp, hcn, -⟩ := (mem_validRules ht).1 hc
  -- The rule stands in a container if it is about columns, not below an include.
  have hout : c ≠ id := by
    rintro rfl
    obtain ⟨hsubject, -, -⟩ := RuleNode.rule.inj (Option.some.inj (hn.symm.trans hcn))
    obtain ⟨place', holder, hp', hh, hcontainer⟩ := hcommon hsubject
    obtain rfl := Option.some.inj (hp'.symm.trans hcp)
    obtain rfl := Option.some.inj (hh.symm.trans hin)
    cases hcontainer
  simpa using hout

theorem passesColumn_without (hcommon : t.Common id subject)
    {catalogKey schemaKey : Option String} {table name : String}
    (hsilent : ∀ place p, t.Applies catalogKey schemaKey place →
      (id, p) ∈ t.validRules .column .excludes place → p.accepts name = false) :
    (t.without id).PassesColumn catalogKey schemaKey table name ↔
      t.PassesColumn catalogKey schemaKey table name := by
  have hbelow : ∀ i ∈ t.tableIncludes catalogKey schemaKey, ∀ q,
      (t.without id).validRules .column q i.1 = t.validRules .column q i.1 :=
    fun i hi q => validRules_column_without ht hn hcommon hi q
  have hoverrides : ∀ i ∈ t.tableIncludes catalogKey schemaKey,
      (t.without id).overrides table i = t.overrides table i := by
    intro i hi
    rw [overrides, overrides, hbelow i hi, hbelow i hi]
  rw [PassesColumn, PassesColumn, tableIncludes_without ht hn, List.find?_congr hoverrides]
  rcases hfind : (t.tableIncludes catalogKey schemaKey).find? (t.overrides table) with _ | i
  · exact passesIn_without ht hn hsilent
  · have hi := List.mem_of_find?_eq_some hfind
    have hrules : ∀ q p, (t.without id).HasRule i.1 .column q p ↔ t.HasRule i.1 .column q p := by
      intro q p
      rw [hasRule_iff (ht.without hn), hasRule_iff ht, hbelow i hi]
    exact Passes.congr (hrules .includes) (hrules .excludes)

/-- Objects about which the rule has no say are decided as before. -/
theorem decide_without (hcommon : t.Common id subject) {o : DiscoveredObject}
    (hsilent : ∀ catalogKey schemaKey,
      t.Scoped (Text.nonBlank o.catalog) (Text.nonBlank o.schema) catalogKey schemaKey →
        ¬ t.SpeaksAbout catalogKey schemaKey o id) :
    (t.without id).compile.sieve.decide o.path o.kind
      = t.compile.sieve.decide o.path o.kind := by
  have haccepts : ∀ {catalogKey schemaKey : Option String} {s : RuleSubject} {name : String},
      o.kind = s.kind → Text.nonBlank o.name = some name →
        t.Scoped (Text.nonBlank o.catalog) (Text.nonBlank o.schema) catalogKey schemaKey →
          ∀ place p, t.Applies catalogKey schemaKey place →
            (id, p) ∈ t.validRules s .excludes place → p.accepts name = false := by
    intro catalogKey schemaKey s name hk hname hscope place p happ hp
    by_contra hne
    exact hsilent catalogKey schemaKey hscope (.direct happ hp hk
      (Text.nonBlank_eq_some_iff.1 hname).1 (Bool.not_eq_false _ ▸ hne))
  refine (sameContainers_without ht hn).decide_eq ht (ht.without hn)
    (fun _ _ hscope _ _ hk _ hname => ?_) (fun _ _ hscope hk _ _ hname => ?_)
  · exact passesIn_without ht hn (haccepts hk hname hscope)
  · exact passesColumn_without ht hn hcommon (haccepts (s := .column) hk hname hscope)

end

/-! ## What is reported with no object -/

/-- A live tree annotated by the rules of a tree. -/
def annotated (t : RuleTree) (live : LiveTree) : AnnotatedTree :=
  live.reconcile t.compile.sieve t.shapes

/-- What is not used is reported with no node. -/
theorem not_mem_matched_of_mem_unused {annotated : AnnotatedTree} (h : id ∈ t.unused annotated) :
    ∀ a ∈ annotated.nodes, id ∉ a.matched := by
  intro a ha hid
  have hunused := (List.mem_filter.1 h).2
  rw [Bool.and_eq_true, Bool.not_eq_true', List.any_eq_false] at hunused
  exact hunused.2 a ha (List.contains_iff_mem.2 hid)

/-- A rule that excludes and is reported with no node changes nothing by going. -/
theorem membership?_without (ht : t.WellFormed)
    (hn : t.node? id = some (.rule subject .excludes source)) (hcommon : t.Common id subject)
    {live : LiveTree} (hlive : live.WellFormed) (hunused : id ∈ t.unused (t.annotated live))
    (v : Nat) :
    ((t.without id).annotated live).membership? v = (t.annotated live).membership? v := by
  unfold annotated
  rcases hv : live.node? v with _ | node
  · simp only [AnnotatedTree.membership?, LiveTree.node?_reconcile hlive.links hlive.complete,
      LiveTree.annotation?, hv, Option.map_none]
  · obtain ⟨o, ho⟩ := hlive.placed (Forest.contains_of_value? hv)
    obtain rfl := Option.some.inj (hv.symm.trans ho.1)
    rw [LiveTree.membership?_reconcile hlive ho, LiveTree.membership?_reconcile hlive ho]
    by_cases hu : Membership.ofResult (t.compile.sieve.decide o.path o.kind) = .undetermined
    · rw [hu, Sieve.ofResult_decide_eq_undetermined_iff.2
        (Sieve.ofResult_decide_eq_undetermined_iff.1 hu)]
    · have hdecided : (live.annotate t.compile.sieve t.shapes v ⟨o.kind, o.name⟩).membership
          ≠ .undetermined := by
        rw [LiveTree.membership_annotate, ho.ofResult_decide hlive]
        exact hu
      have hmem : live.annotate t.compile.sieve t.shapes v ⟨o.kind, o.name⟩
          ∈ (t.annotated live).nodes := (LiveTree.mem_nodes_reconcile hlive.links).2 ⟨v, _, hv, rfl⟩
      rw [decide_without ht hn hcommon fun catalogKey schemaKey hscope hspeaks =>
        not_mem_matched_of_mem_unused hunused _ hmem
          (LiveTree.mem_matched ht hlive ho hdecided hscope hspeaks)]

/-- What is reported with the objects of a snapshot explains what is decided about them: every rule
that has a say about a decided object is reported with it, and one that excludes and is reported
with none can be removed without a change to any object. -/
theorem Reachable.explained (ht : t.Reachable) (objects : List DiscoveredObject) :
    (∀ a ∈ (t.annotated (.ofObjects objects)).nodes, a.membership ≠ .undetermined →
      (∃ o, (LiveTree.ofObjects objects).StandsFor a.id o) ∧
        ∀ o, (LiveTree.ofObjects objects).StandsFor a.id o → ∀ catalogKey schemaKey,
          t.Scoped (Text.nonBlank o.catalog) (Text.nonBlank o.schema) catalogKey schemaKey →
            ∀ rule, t.SpeaksAbout catalogKey schemaKey o rule → rule ∈ a.matched) ∧
    ∀ id ∈ t.unused (t.annotated (.ofObjects objects)),
      ∀ subject source, t.node? id = some (.rule subject .excludes source) →
        t.Common id subject →
          ∃ t', t.remove id = .ok (.rule subject .excludes source, t') ∧
            ∀ v, (t'.annotated (.ofObjects objects)).membership? v
              = (t.annotated (.ofObjects objects)).membership? v := by
  have hlive := LiveTree.ofObjects_wellFormed objects
  constructor
  · intro a ha hdecided
    obtain ⟨id, node, hv, rfl⟩ := (LiveTree.mem_nodes_reconcile hlive.links).1 ha
    refine ⟨hlive.placed (Forest.contains_of_value? hv), fun o ho _ _ hscope _ hspeaks => ?_⟩
    obtain rfl := Option.some.inj (hv.symm.trans ho.1)
    exact LiveTree.mem_matched ht.wellFormed hlive ho hdecided hscope hspeaks
  · intro id hunused subject source hn hcommon
    exact ⟨t.without id, remove_eq_without ht.wellFormed hn,
      membership?_without ht.wellFormed hn hcommon hlive hunused⟩

/-- Rules against tables and columns that are not there, and one about the columns of a table. -/
def salesRules : RuleTree :=
  empty.run [.attach 0 (.catalog (some "SALES")), .attach 1 (.excludeTable "TMP.*"),
    .attach 0 (.excludeColumn "SECRET"), .attach 0 (.includeTable "ORDERS"),
    .attach 4 (.includeColumn "ID")]

/-- A column in the catalog, and a table outside to which its rules do not apply. -/
def salesObjects : List DiscoveredObject :=
  [⟨.column, some "ID", some "SALES", none, some "ORDERS"⟩,
    ⟨.table, some "TMP1", none, none, none⟩]

theorem explained_salesRules :
    salesRules.Reachable ∧
      (∃ a ∈ (salesRules.annotated (.ofObjects salesObjects)).nodes,
        a.membership ≠ .undetermined ∧ a.matched = [5] ∧
          ∃ o, (LiveTree.ofObjects salesObjects).StandsFor a.id o) ∧
      2 ∈ salesRules.unused (salesRules.annotated (.ofObjects salesObjects)) ∧
      ∃ t', salesRules.remove 2 = .ok (.excludeTable "TMP.*", t') ∧
        ∀ v, (t'.annotated (.ofObjects salesObjects)).membership? v
          = (salesRules.annotated (.ofObjects salesObjects)).membership? v := by
  have ht : salesRules.Reachable := reachable_run .empty _
  obtain ⟨hreported, hspare⟩ := ht.explained salesObjects
  have hnode : ∃ a ∈ (salesRules.annotated (.ofObjects salesObjects)).nodes,
      a.membership ≠ .undetermined ∧ a.matched = [5] := by
    decide +kernel
  have hunused : 2 ∈ salesRules.unused (salesRules.annotated (.ofObjects salesObjects)) := by
    decide +kernel
  have hrule : salesRules.node? 2 = some (.excludeTable "TMP.*") := by decide +kernel
  obtain ⟨a, ha, hdecided, hmatched⟩ := hnode
  exact ⟨ht, ⟨a, ha, hdecided, hmatched, (hreported a ha hdecided).1⟩, hunused,
    hspare 2 hunused .table "TMP.*" hrule (fun h => by cases h)⟩

end RuleTree

end SchemaSieve
