import Mathlib.Tactic
import SchemaSieve.Proofs.Containers
import SchemaSieve.Proofs.Grafting

/-!
# What a new rule changes

A rule is planted at the end of its place, and nothing stands below it. So a tree with a new rule
has the containers it had, and of the valid rules only those of one place and one form have become
more (`Gains`). Objects of other kinds are decided as before: a new include of tables brings no
column rules, so it overrides nothing (`Gains.others`).
-/

namespace SchemaSieve

namespace RuleTree

variable {t t' : RuleTree} {place : Nat} {subject : RuleSubject} {polarity : Polarity}
  {source : String} {p : NamePattern}

/-! ## Planting a rule -/

section

variable (ht : t.WellFormed) (hplace : t.forest.contains place = true)

include ht hplace

theorem childNodes_plant (node : RuleNode) (q : Nat) :
    (t.plant place node).childNodes q
      = t.childNodes q ++ if place = q then [(t.nextId, node)] else [] := by
  have hchildren : (t.plant place node).children q
      = t.children q ++ if some place = some q then [t.nextId] else [] :=
    Forest.under_plant (Forest.isPlace_some.2 hplace) node (some q)
  have hnode : ∀ c, (t.plant place node).node? c = if c = t.nextId then some node else t.node? c :=
    Forest.value?_plant t.forest (some place) node
  rw [childNodes, hchildren, List.filterMap_append, childNodes]
  congr 1
  · refine List.filterMap_congr fun c hc => ?_
    have hne : c ≠ t.nextId :=
      Forest.ne_size_of_contains (Forest.contains_of_parent? (ht.links.mem_children.1 hc))
    rw [hnode, if_neg hne]
  · by_cases hq : place = q
    · subst hq
      simp [hnode]
    · simp [hq]

/-- What does not ask for the new node sees the nodes that were there. -/
theorem filterMap_childNodes_plant {β : Type} {g : Nat × RuleNode → Option β} {node : RuleNode}
    (hg : g (t.nextId, node) = none) (q : Nat) :
    ((t.plant place node).childNodes q).filterMap g = (t.childNodes q).filterMap g := by
  rw [childNodes_plant ht hplace, List.filterMap_append]
  split_ifs
  · rw [List.filterMap_cons_none hg, List.filterMap_nil, List.append_nil]
  · rw [List.filterMap_nil, List.append_nil]

theorem sameContainers_plant (subject : RuleSubject) (polarity : Polarity) (source : String) :
    t.SameContainers (t.plant place (.rule subject polarity source)) := by
  have hcatalogs : (t.plant place (.rule subject polarity source)).catalogs = t.catalogs :=
    filterMap_childNodes_plant ht hplace rfl rootId
  have hschemas : ∀ q, (t.plant place (.rule subject polarity source)).schemas q = t.schemas q :=
    filterMap_childNodes_plant ht hplace rfl
  exact ⟨hcatalogs, candidates_congr hcatalogs (fun c _ => hschemas c.1) (hschemas rootId)⟩

theorem validRules_plant (subject : RuleSubject) (polarity : Polarity) (source : String)
    (s : RuleSubject) (q : Polarity) (i : Nat) :
    (t.plant place (.rule subject polarity source)).validRules s q i
      = t.validRules s q i ++ if place = i ∧ subject = s ∧ polarity = q then
          ((validPattern? source).map (t.nextId, ·)).toList else [] := by
  rw [validRules, childNodes_plant ht hplace, List.filterMap_append, validRules]
  congr 1
  by_cases hi : place = i
  · by_cases hsq : subject = s ∧ polarity = q
    · rcases hv : validPattern? source with _ | v <;> simp [hi, hsq, hv]
    · simp [hi, hsq]
  · simp [hi]

theorem hasRule_plant {i : Nat} {s : RuleSubject} {q : Polarity} {r : NamePattern} :
    (t.plant place (.rule subject polarity source)).HasRule i s q r ↔
      t.HasRule i s q r ∨
        (i = place ∧ s = subject ∧ q = polarity ∧ validPattern? source = some r) := by
  simp only [hasRule_iff (ht.plant hplace _), hasRule_iff ht, validRules_plant ht hplace,
    List.mem_append, exists_or]
  refine or_congr_right ?_
  split_ifs with h
  · obtain ⟨rfl, rfl, rfl⟩ := h
    simp
  · simp only [List.not_mem_nil, exists_false, false_iff]
    rintro ⟨rfl, rfl, rfl, -⟩
    exact h ⟨rfl, rfl, rfl⟩

end

/-! ## Gaining a rule -/

/-- Whether a tree decides like another which has one valid rule more, in one place. It may be that
an equal rule stood there already. -/
structure Gains (t : RuleTree) (place : Nat) (subject : RuleSubject) (polarity : Polarity)
    (p : NamePattern) (t' : RuleTree) : Prop where
  wellFormed : t'.WellFormed
  containers : t.SameContainers t'
  hasRule : ∀ i s q r, t'.HasRule i s q r ↔
    t.HasRule i s q r ∨ (i = place ∧ s = subject ∧ q = polarity ∧ r = p)
  others : ∀ path kind, kind ≠ subject.kind →
    t'.compile.sieve.decide path kind = t.compile.sieve.decide path kind

/-- A tree gains nothing by a rule that it has. -/
theorem gains_of_hasRule (ht : t.WellFormed) (h : t.HasRule place subject polarity p) :
    t.Gains place subject polarity p t where
  wellFormed := ht
  containers := .refl t
  hasRule := by
    refine fun i s q r => (or_iff_left_of_imp ?_).symm
    rintro ⟨rfl, rfl, rfl, rfl⟩
    exact h
  others := fun _ _ _ => rfl

/-- Nothing stands below the new rule. -/
theorem validRules_nextId (ht : t.WellFormed) (hplace : t.forest.contains place = true)
    (s : RuleSubject) (q : Polarity) :
    (t.plant place (.rule subject polarity source)).validRules s q t.nextId = [] := by
  have hnone : t.childNodes t.nextId = [] := by
    rw [childNodes, children, show t.forest.children t.nextId = [] from
      Forest.children_eq_nil (Forest.contains_size _), List.filterMap_nil]
  have hne : place ≠ t.nextId := Forest.ne_size_of_contains hplace
  rw [validRules_plant ht hplace, if_neg fun h => hne h.1, validRules, hnone]
  rfl

/-- A new include of tables brings no column rules, so the first that does is the same. -/
theorem find?_overrides_plant (ht : t.WellFormed) (hplace : t.forest.contains place = true)
    (hsubject : subject ≠ .column) (catalogKey schemaKey : Option String) (table : String) :
    ((t.plant place (.rule subject polarity source)).tableIncludes catalogKey schemaKey).find?
        ((t.plant place (.rule subject polarity source)).overrides table)
      = (t.tableIncludes catalogKey schemaKey).find? (t.overrides table) := by
  have hbelow : ∀ q i, (t.plant place (.rule subject polarity source)).validRules .column q i
      = t.validRules .column q i := by
    intro q i
    rw [validRules_plant ht hplace, if_neg fun h => hsubject h.2.1, List.append_nil]
  have hoverrides : (t.plant place (.rule subject polarity source)).overrides table
      = t.overrides table := by
    funext i
    rw [overrides, overrides, hbelow, hbelow]
  rw [hoverrides, tableIncludes, tableIncludes,
    (sameContainers_plant ht hplace _ _ _).applicable_eq,
    List.find?_flatMap, List.find?_flatMap]
  congr 1
  funext i
  -- The new include stands last in its place and overrides nothing, so the search goes past it.
  rw [validRules_plant ht hplace, List.find?_append, Option.or_eq_left_of_none]
  rw [List.find?_eq_none]
  intro r hr
  have hr : r.1 = t.nextId := by
    split_ifs at hr
    · rcases hv : validPattern? source with _ | v <;> simp_all
    · cases hr
  rw [overrides, hr, ← hbelow, ← hbelow, validRules_nextId ht hplace, validRules_nextId ht hplace]
  simp

theorem passesIn_plant_of_ne (ht : t.WellFormed) (hplace : t.forest.contains place = true)
    {catalogKey schemaKey : Option String} {s : RuleSubject} (hs : s ≠ subject) {name : String} :
    (t.plant place (.rule subject polarity source)).PassesIn catalogKey schemaKey s name ↔
      t.PassesIn catalogKey schemaKey s name := by
  have hsame := sameContainers_plant ht hplace subject polarity source
  have hrules : ∀ q r, (∃ i, (t.plant place (.rule subject polarity source)).Applies catalogKey
        schemaKey i ∧ (t.plant place (.rule subject polarity source)).HasRule i s q r) ↔
      ∃ i, t.Applies catalogKey schemaKey i ∧ t.HasRule i s q r := by
    intro q r
    refine exists_congr fun i => and_congr (hsame.applies_iff ht (ht.plant hplace _)) ?_
    rw [hasRule_plant ht hplace]
    exact or_iff_left fun h => hs h.2.1
  exact Passes.congr (hrules .includes) (hrules .excludes)

/-- A tree gains the rule that is planted in it. -/
theorem gains_plant (ht : t.WellFormed) (hplace : t.forest.contains place = true)
    (hp : validPattern? source = some p) :
    t.Gains place subject polarity p (t.plant place (.rule subject polarity source)) where
  wellFormed := ht.plant hplace _
  containers := sameContainers_plant ht hplace subject polarity source
  hasRule := by
    intro i s q r
    rw [hasRule_plant ht hplace, hp, Option.some.injEq, eq_comm (a := p)]
  others := by
    intro path kind hkind
    refine (sameContainers_plant ht hplace subject polarity source).decide_eq ht
      (ht.plant hplace _) (fun _ _ _ s _ hk name _ => ?_) (fun _ _ _ hk table name _ => ?_)
    · exact passesIn_plant_of_ne ht hplace fun hs => hkind (hk.trans (congrArg _ hs))
    · have hsubject : subject ≠ .column := fun hs => hkind (hs ▸ hk)
      rw [PassesColumn, PassesColumn, find?_overrides_plant ht hplace hsubject]
      rcases hfind : (t.tableIncludes _ _).find? (t.overrides table) with _ | i
      · exact passesIn_plant_of_ne ht hplace (Ne.symm hsubject)
      · refine Passes.congr (fun r => ?_) fun r => ?_ <;> rw [hasRule_plant ht hplace] <;>
          exact or_iff_left fun h => hsubject h.2.1.symm

/-! ## What follows -/

namespace Gains

variable {catalogKey schemaKey : Option String} {name : String}

theorem exists_rule_iff (h : t.Gains place subject polarity p t') (ht : t.WellFormed)
    {s : RuleSubject} {q : Polarity} {r : NamePattern} :
    (∃ i, t'.Applies catalogKey schemaKey i ∧ t'.HasRule i s q r) ↔
      (∃ i, t.Applies catalogKey schemaKey i ∧ t.HasRule i s q r) ∨
        (t.Applies catalogKey schemaKey place ∧ s = subject ∧ q = polarity ∧ r = p) := by
  simp only [h.containers.applies_iff ht h.wellFormed, h.hasRule, and_or_left, exists_or]
  refine or_congr_right ⟨?_, ?_⟩
  · rintro ⟨_, happ, rfl, hr⟩
    exact ⟨happ, hr⟩
  · rintro ⟨happ, hr⟩
    exact ⟨place, happ, rfl, hr⟩

/-- A rule that excludes takes its names from what passes where it applies. -/
theorem passesIn_excludes (h : t.Gains place subject .excludes p t') (ht : t.WellFormed) :
    t'.PassesIn catalogKey schemaKey subject name ↔
      t.PassesIn catalogKey schemaKey subject name ∧
        (t.Applies catalogKey schemaKey place → p.accepts name = false) := by
  simp only [PassesIn, Passes, h.exists_rule_iff ht, reduceCtorEq, false_and, and_false, or_false,
    true_and, or_imp, forall_and, and_assoc]
  refine and_congr_right fun _ => and_congr_right fun _ => ⟨fun hnew happ => ?_, ?_⟩
  · exact hnew p ⟨happ, rfl⟩
  · rintro hnew _ ⟨happ, rfl⟩
    exact hnew happ

/-- With a rule that includes a name where the rule applies, the name passes unless it is
excluded. -/
theorem passesIn_includes (h : t.Gains place subject .includes p t') (ht : t.WellFormed)
    (happ : t.Applies catalogKey schemaKey place) (haccepts : p.accepts name = true) :
    t'.PassesIn catalogKey schemaKey subject name ↔
      ∀ i r, t.Applies catalogKey schemaKey i → t.HasRule i subject .excludes r →
        r.accepts name = false := by
  constructor
  · rintro ⟨-, hall⟩ i r hi hr
    exact hall r ((h.exists_rule_iff ht).2 (.inl ⟨i, hi, hr⟩))
  · intro hall
    refine ⟨.inr ⟨p, (h.exists_rule_iff ht).2 (.inr ⟨happ, rfl, rfl, rfl⟩), haccepts⟩,
      fun r hr => ?_⟩
    rcases (h.exists_rule_iff ht).1 hr with ⟨i, hi, hr⟩ | ⟨-, -, hq, -⟩
    · exact hall i r hi hr
    · cases hq

theorem decide_excludes_iff (h : t.Gains place subject .excludes p t') (ht : t.WellFormed)
    (hsubject : subject ≠ .column) {path : ObjectPath}
    (hname : Text.nonBlank path.name = some name) :
    t'.compile.sieve.decide path subject.kind = .ok .included ↔
      ∃ catalogKey schemaKey,
        t.Scoped (Text.nonBlank path.catalog) (Text.nonBlank path.schema) catalogKey schemaKey ∧
          t.PassesIn catalogKey schemaKey subject name ∧
            (t.Applies catalogKey schemaKey place → p.accepts name = false) := by
  simp only [decide_subject_iff h.wellFormed hsubject hname,
    h.containers.scoped_iff ht h.wellFormed, h.passesIn_excludes ht]

/-- A rule against tables or procedures changes no more than the names it accepts, and these from
included to excluded. -/
theorem excluded_of_decide_ne (h : t.Gains place subject .excludes p t') (ht : t.WellFormed)
    (hsubject : subject ≠ .column) {path : ObjectPath} {kind : ObjectKind}
    (hne : t'.compile.sieve.decide path kind ≠ t.compile.sieve.decide path kind) :
    kind = subject.kind ∧ (∃ name, path.name = some name ∧ p.accepts name = true) ∧
      t.compile.sieve.decide path kind = .ok .included ∧
        t'.compile.sieve.decide path kind = .ok .excluded := by
  have hkind : kind = subject.kind := by
    by_contra hkind
    exact hne (h.others path kind hkind)
  subst hkind
  rcases hname : Text.nonBlank path.name with _ | name
  · exact absurd (by simp [Sieve.decide, hname]) hne
  have hbefore := decide_subject_iff ht hsubject hname
  have hafter := h.decide_excludes_iff ht hsubject hname
  have hless : t'.compile.sieve.decide path subject.kind = .ok .included →
      t.compile.sieve.decide path subject.kind = .ok .included := by
    rw [hafter, hbefore]
    rintro ⟨catalogKey, schemaKey, hscope, hpasses, -⟩
    exact ⟨catalogKey, schemaKey, hscope, hpasses⟩
  have hnot : ¬ t'.compile.sieve.decide path subject.kind = .ok .included :=
    fun hin => hne (Sieve.decide_eq_of_included_iff ⟨hless, fun _ => hin⟩)
  have hincluded : t.compile.sieve.decide path subject.kind = .ok .included := by
    by_contra hout
    exact hne (Sieve.decide_eq_of_included_iff (iff_of_false hnot hout))
  refine ⟨rfl, ⟨name, (Text.nonBlank_eq_some_iff.1 hname).1, ?_⟩, hincluded, ?_⟩
  · by_contra haccepts
    obtain ⟨catalogKey, schemaKey, hscope, hpasses⟩ := hbefore.1 hincluded
    exact hnot (hafter.2 ⟨catalogKey, schemaKey, hscope, hpasses, fun _ => by simpa using haccepts⟩)
  · rw [Sieve.decide_subject hsubject hname] at hnot ⊢
    exact ok_excluded_iff.2 hnot

section

variable (ht : t.WellFormed) (hsubject : subject ≠ .column) {path : ObjectPath}
  (hname : Text.nonBlank path.name = some name) (haccepts : p.accepts name = true)
  (happlies : ∀ catalogKey schemaKey,
    t.Scoped (Text.nonBlank path.catalog) (Text.nonBlank path.schema) catalogKey schemaKey →
      t.Applies catalogKey schemaKey place)

include ht hsubject hname haccepts happlies

/-- What a rule excludes where it applies is excluded. -/
theorem decide_excludes (h : t.Gains place subject .excludes p t') :
    t'.compile.sieve.decide path subject.kind = .ok .excluded := by
  rw [Sieve.decide_subject hsubject hname, ok_excluded_iff, ← Sieve.decide_subject hsubject hname,
    h.decide_excludes_iff ht hsubject hname]
  rintro ⟨catalogKey, schemaKey, hscope, -, hrejects⟩
  rw [hrejects (happlies _ _ hscope)] at haccepts
  cases haccepts

/-- What a rule includes where it applies is included unless it is excluded there. -/
theorem decide_includes_iff (h : t.Gains place subject .includes p t') :
    t'.compile.sieve.decide path subject.kind = .ok .included ↔
      ∃ catalogKey schemaKey,
        t.Scoped (Text.nonBlank path.catalog) (Text.nonBlank path.schema) catalogKey schemaKey ∧
          ∀ i r, t.Applies catalogKey schemaKey i → t.HasRule i subject .excludes r →
            r.accepts name = false := by
  rw [decide_subject_iff h.wellFormed hsubject hname]
  refine exists_congr fun catalogKey => exists_congr fun schemaKey => ?_
  rw [h.containers.scoped_iff ht h.wellFormed]
  exact and_congr_right fun hscope =>
    h.passesIn_includes ht (happlies _ _ hscope) haccepts

end

end Gains

end RuleTree

end SchemaSieve
