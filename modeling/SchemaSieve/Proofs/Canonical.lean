import Mathlib.Tactic
import SchemaSieve.Proofs.Documents

/-!
# Documents through trees

A document that is planted as a tree and read off again comes back in its canonical form: with the
version of documents written now, and with every include of tables that has no column rules as a
bare pattern. All else is as it was, in its order (`RuleTree.toDocument_ofDocument`). Planting puts
the lists of a namespace one after the other below one node; each is found again because the
branches of the others yield nothing for it (`RuleLists.ofBranches_append`).
-/

namespace SchemaSieve

/-! ## Canonical forms -/

/-- An include of tables without column rules as a bare pattern. -/
def IncludeTableRule.canonical : IncludeTableRule → IncludeTableRule
  | detailed pattern [] [] => bare pattern
  | r => r

def RuleLists.canonical (r : RuleLists) : RuleLists :=
  { r with includeTables := r.includeTables.map IncludeTableRule.canonical }

def SchemaRules.canonical (s : SchemaRules) : SchemaRules :=
  { s with rules := s.rules.canonical }

def CatalogRules.canonical (c : CatalogRules) : CatalogRules :=
  { c with schemas := c.schemas.map SchemaRules.canonical, rules := c.rules.canonical }

/-- A document as it is written now: with the version of the empty document, and with bare patterns
where an include of tables has no column rules. -/
def RulesDocument.canonical (d : RulesDocument) : RulesDocument where
  version := empty.version
  catalogs := d.catalogs.map CatalogRules.canonical
  schemas := d.schemas.map SchemaRules.canonical
  rules := d.rules.canonical

/-! ## Lists that are written and read -/

section

variable {α β γ : Type}

/-- What is read from each thing that was written is read from all of them. -/
theorem filterMap_map_of_read {write : α → β} {read : β → Option γ} {f : α → γ}
    (h : ∀ x, read (write x) = some (f x)) (xs : List α) :
    (xs.map write).filterMap read = xs.map f := by
  rw [List.filterMap_map]
  simp only [Function.comp_def, h]
  exact congrFun List.filterMap_eq_map' xs

/-- What reading yields is left alone by what leaves each part alone that is read. -/
theorem map_filterMap_of_fixed {read : β → Option α} {f : α → α}
    (h : ∀ y x, read y = some x → f x = x) (ys : List β) :
    (ys.filterMap read).map f = ys.filterMap read := by
  refine (List.map_congr_left fun x hx => ?_).trans (List.map_id _)
  obtain ⟨y, -, hy⟩ := List.mem_filterMap.1 hx
  exact h y x hy

end

/-! ## Rules -/

theorem patternsOf_append (subject : RuleSubject) (polarity : Polarity)
    (bs cs : List (Branch RuleNode)) :
    patternsOf subject polarity (bs ++ cs)
      = patternsOf subject polarity bs ++ patternsOf subject polarity cs :=
  List.filterMap_append

/-- Rules that are written in one form are found under that form and no other. -/
theorem patternsOf_map {α : Type} {s : RuleSubject} {q : Polarity} {source : α → String}
    {write : α → Branch RuleNode} (hwrite : ∀ a, (write a).value = .rule s q (source a))
    (subject : RuleSubject) (polarity : Polarity) (l : List α) :
    patternsOf subject polarity (l.map write)
      = if s = subject ∧ q = polarity then l.map source else [] := by
  rw [patternsOf, List.filterMap_map]
  simp only [Function.comp_def, hwrite]
  split_ifs
  · exact congrFun List.filterMap_eq_map' l
  · exact List.filterMap_eq_nil_iff.2 fun _ _ => rfl

theorem patternsOf_map_leaf (s : RuleSubject) (q : Polarity) (subject : RuleSubject)
    (polarity : Polarity) (l : List String) :
    patternsOf subject polarity (l.map (leaf s q))
      = if s = subject ∧ q = polarity then l else [] := by
  have hmap : patternsOf subject polarity (l.map (leaf s q))
      = if s = subject ∧ q = polarity then l.map id else [] :=
    patternsOf_map (fun _ => rfl) subject polarity l
  rwa [List.map_id] at hmap

theorem patternsOf_eq_nil {bs : List (Branch RuleNode)}
    (h : ∀ b ∈ bs, b.value.isContainer = true) (subject : RuleSubject) (polarity : Polarity) :
    patternsOf subject polarity bs = [] := by
  refine List.filterMap_eq_nil_iff.2 fun b hb => ?_
  have hcontainer := h b hb
  split
  · rename_i hrule
    rw [hrule] at hcontainer
    cases hcontainer
  · rfl

namespace IncludeTableRule

theorem ofBranch?_eq_none {b : Branch RuleNode}
    (h : ∀ source, b.value ≠ .includeTable source) : ofBranch? b = none := by
  unfold ofBranch?
  split
  · rename_i source hb
    exact absurd hb (h source)
  · rfl

theorem of_eq_canonical (pattern : String) (includes excludes : List String) :
    of pattern includes excludes = (detailed pattern includes excludes).canonical := by
  rcases includes with _ | ⟨_, _⟩ <;> rcases excludes with _ | ⟨_, _⟩ <;> rfl

theorem canonical_canonical (r : IncludeTableRule) : r.canonical.canonical = r.canonical := by
  rcases r with _ | ⟨_, _ | _, _ | _⟩ <;> rfl

/-- The column rules of an include are found again below it. -/
theorem ofBranch?_branch (r : IncludeTableRule) : ofBranch? r.branch = some r.canonical := by
  have hread : ofBranch? r.branch = some (of r.pattern
      (patternsOf .column .includes r.branch.children)
      (patternsOf .column .excludes r.branch.children)) := rfl
  rw [hread, of_eq_canonical]
  rcases r with pattern | ⟨pattern, includes, excludes⟩
  · rfl
  · simp [branch, Branch.children, patternsOf_append, patternsOf_map_leaf, includeColumns,
      excludeColumns, IncludeTableRule.pattern]

end IncludeTableRule

namespace RuleLists

variable {r : RuleLists}

theorem canonical_canonical (r : RuleLists) : r.canonical.canonical = r.canonical := by
  simp [canonical, Function.comp_def, IncludeTableRule.canonical_canonical]

/-- Each list of a namespace is found again under its form. -/
theorem patternsOf_branches (r : RuleLists) (subject : RuleSubject) (polarity : Polarity) :
    patternsOf subject polarity r.branches = r.sources subject polarity := by
  have htable : patternsOf subject polarity (r.includeTables.map (·.branch))
      = if .table = subject ∧ .includes = polarity then r.includeTables.map (·.pattern) else [] :=
    patternsOf_map (fun _ => rfl) subject polarity r.includeTables
  simp only [branches, patternsOf_append, patternsOf_map_leaf, htable]
  cases subject <;> cases polarity <;> simp [sources]

theorem includeTables_ofBranches_branches (r : RuleLists) :
    r.branches.filterMap IncludeTableRule.ofBranch? = r.canonical.includeTables := by
  have hleaf : ∀ s q (l : List String), ¬ (s = .table ∧ q = .includes) →
      (l.map (leaf s q)).filterMap IncludeTableRule.ofBranch? = [] := by
    intro s q l h
    rw [List.filterMap_eq_nil_iff]
    intro b hb
    obtain ⟨source, -, rfl⟩ := List.mem_map.1 hb
    refine IncludeTableRule.ofBranch?_eq_none fun pattern hp => h ?_
    cases hp
    exact ⟨rfl, rfl⟩
  simp (disch := decide) only [branches, List.filterMap_append, hleaf, List.append_nil]
  exact filterMap_map_of_read IncludeTableRule.ofBranch?_branch r.includeTables

/-- Among containers, the rules of a namespace are found again. -/
theorem ofBranches_append {bs : List (Branch RuleNode)}
    (h : ∀ b ∈ bs, b.value.isContainer = true) (r : RuleLists) :
    ofBranches (bs ++ r.branches) = r.canonical := by
  have hcontainers : bs.filterMap IncludeTableRule.ofBranch? = [] := by
    refine List.filterMap_eq_nil_iff.2 fun b hb =>
      IncludeTableRule.ofBranch?_eq_none fun source hs => ?_
    have hcontainer := h b hb
    rw [hs] at hcontainer
    cases hcontainer
  simp only [ofBranches, patternsOf_append, patternsOf_eq_nil h, patternsOf_branches,
    List.filterMap_append, hcontainers, includeTables_ofBranches_branches, List.nil_append]
  rfl

theorem canonical_ofBranches (bs : List (Branch RuleNode)) :
    (ofBranches bs).canonical = ofBranches bs := by
  have hincludes : (bs.filterMap IncludeTableRule.ofBranch?).map IncludeTableRule.canonical
      = bs.filterMap IncludeTableRule.ofBranch? := by
    refine map_filterMap_of_fixed (fun b r hr => ?_) bs
    unfold IncludeTableRule.ofBranch? at hr
    split at hr
    · cases hr
      rw [IncludeTableRule.of_eq_canonical, IncludeTableRule.canonical_canonical]
    · cases hr
  rw [canonical, ofBranches, hincludes]

end RuleLists

/-! ## Namespaces -/

theorem SchemaRules.ofBranch?_branch (s : SchemaRules) : ofBranch? s.branch = some s.canonical := by
  have hrules : RuleLists.ofBranches ([] ++ s.rules.branches) = s.rules.canonical :=
    RuleLists.ofBranches_append (by simp) s.rules
  rw [List.nil_append] at hrules
  simp [ofBranch?, branch, Branch.value, Branch.children, canonical, hrules]

theorem SchemaRules.canonical_of_ofBranch? {b : Branch RuleNode} {s : SchemaRules}
    (h : ofBranch? b = some s) : s.canonical = s := by
  unfold ofBranch? at h
  split at h
  · cases h
    rw [canonical, RuleLists.canonical_ofBranches]
  · cases h

/-- The schemas of a namespace are found again among its rules. -/
theorem filterMap_schemas (schemas : List SchemaRules) (r : RuleLists) :
    (schemas.map SchemaRules.branch ++ r.branches).filterMap SchemaRules.ofBranch?
      = schemas.map SchemaRules.canonical := by
  have hrules : r.branches.filterMap SchemaRules.ofBranch? = [] := by
    refine List.filterMap_eq_nil_iff.2 fun b hb => ?_
    obtain ⟨s, q, source, hvalue⟩ := RuleLists.value_of_mem_branches hb
    simp [SchemaRules.ofBranch?, hvalue]
  rw [List.filterMap_append, hrules, List.append_nil,
    filterMap_map_of_read SchemaRules.ofBranch?_branch]

theorem isContainer_of_mem_schemas {schemas : List SchemaRules} {b : Branch RuleNode}
    (h : b ∈ schemas.map SchemaRules.branch) : b.value.isContainer = true := by
  obtain ⟨s, -, rfl⟩ := List.mem_map.1 h
  rfl

theorem CatalogRules.ofBranch?_branch (c : CatalogRules) :
    ofBranch? c.branch = some c.canonical := by
  have hread : ofBranch? c.branch
      = some ⟨c.name,
          (c.schemas.map SchemaRules.branch ++ c.rules.branches).filterMap SchemaRules.ofBranch?,
          .ofBranches (c.schemas.map SchemaRules.branch ++ c.rules.branches)⟩ := rfl
  rw [hread, filterMap_schemas, RuleLists.ofBranches_append fun _ => isContainer_of_mem_schemas]
  rfl

theorem CatalogRules.canonical_of_ofBranch? {b : Branch RuleNode} {c : CatalogRules}
    (h : ofBranch? b = some c) : c.canonical = c := by
  unfold ofBranch? at h
  split at h
  · cases h
    rw [canonical, RuleLists.canonical_ofBranches,
      map_filterMap_of_fixed fun _ _ => SchemaRules.canonical_of_ofBranch?]
  · cases h

namespace RulesDocument

theorem ofBranches_branches (d : RulesDocument) : ofBranches d.branches = d.canonical := by
  have hcontainers : ∀ b ∈ d.catalogs.map CatalogRules.branch ++ d.schemas.map SchemaRules.branch,
      b.value.isContainer = true := by
    intro b hb
    rcases List.mem_append.1 hb with hb | hb
    · obtain ⟨c, -, rfl⟩ := List.mem_map.1 hb
      rfl
    · exact isContainer_of_mem_schemas hb
  -- Catalogs are read from catalogs alone, schemas from all but them.
  have hcatalogs : d.branches.filterMap CatalogRules.ofBranch? = d.canonical.catalogs := by
    have hrest : (d.schemas.map SchemaRules.branch ++ d.rules.branches).filterMap
        CatalogRules.ofBranch? = [] := by
      refine List.filterMap_eq_nil_iff.2 fun b hb => ?_
      rcases List.mem_append.1 hb with hb | hb
      · obtain ⟨s, -, rfl⟩ := List.mem_map.1 hb
        rfl
      · obtain ⟨s, q, source, hvalue⟩ := RuleLists.value_of_mem_branches hb
        simp [CatalogRules.ofBranch?, hvalue]
    rw [branches, List.append_assoc, List.filterMap_append, hrest, List.append_nil,
      filterMap_map_of_read CatalogRules.ofBranch?_branch]
    rfl
  have hschemas : d.branches.filterMap SchemaRules.ofBranch? = d.canonical.schemas := by
    have hnone : (d.catalogs.map CatalogRules.branch).filterMap SchemaRules.ofBranch? = [] := by
      refine List.filterMap_eq_nil_iff.2 fun b hb => ?_
      obtain ⟨c, -, rfl⟩ := List.mem_map.1 hb
      rfl
    rw [branches, List.append_assoc, List.filterMap_append, hnone, List.nil_append,
      filterMap_schemas]
    rfl
  rw [ofBranches, hcatalogs, hschemas, branches, RuleLists.ofBranches_append hcontainers]
  rfl

theorem canonical_ofBranches (bs : List (Branch RuleNode)) :
    (ofBranches bs).canonical = ofBranches bs := by
  rw [canonical, ofBranches, map_filterMap_of_fixed fun _ _ => CatalogRules.canonical_of_ofBranch?,
    map_filterMap_of_fixed fun _ _ => SchemaRules.canonical_of_ofBranch?,
    RuleLists.canonical_ofBranches]
  rfl

end RulesDocument

/-- A document that is planted as a tree and read off again is the same in its canonical form, and a
document that was read off a tree comes back unchanged. -/
theorem RuleTree.toDocument_ofDocument (d : RulesDocument) (t : RuleTree) :
    (ofDocument d).toDocument = d.canonical ∧
      (ofDocument t.toDocument).toDocument = t.toDocument := by
  have hread : ∀ d, (ofDocument d).toDocument = d.canonical := by
    intro d
    rw [toDocument, branch_ofDocument]
    exact d.ofBranches_branches
  refine ⟨hread d, ?_⟩
  rw [hread, toDocument, RulesDocument.canonical_ofBranches]

end SchemaSieve
