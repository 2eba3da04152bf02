import Mathlib.Tactic
import SchemaSieve.Proofs.Branches
import SchemaSieve.Proofs.Decisions
import SchemaSieve.Proofs.Grafting

/-!
# The sieve of a document

What compiling makes of a document, said on its lists. Each namespace is merged on its own and what
applies to an object is merged again, yet in the end the filters are those of the rules of all the
namespaces put together in one (`RuleLists.filters_together`). So the sieve has an entry for each
pair of keys that the document declares, with the filters of the applicable rules together
(`RulesDocument.compile_sieve`).
-/

namespace SchemaSieve

/-! ## Rules of one namespace -/

/-- The column rules of an include of tables, by themselves. -/
def IncludeTableRule.columnRules (r : IncludeTableRule) : RuleLists :=
  { includeColumns := r.includeColumns, excludeColumns := r.excludeColumns }

/-- The include that a rule gives, if its pattern is valid. -/
def IncludeTableRule.include? (r : IncludeTableRule) : Option TableInclude :=
  (validPattern? r.pattern).map fun p => ⟨p, FilterSet.overrideOf r.branch⟩

namespace RuleLists

variable {r : RuleLists} {subject : RuleSubject} {polarity : Polarity}

/-- The patterns of the rules of one form as they are written. -/
def sources (r : RuleLists) : RuleSubject → Polarity → List String
  | .table, .includes => r.includeTables.map (·.pattern)
  | .table, .excludes => r.excludeTables
  | .column, .includes => r.includeColumns
  | .column, .excludes => r.excludeColumns
  | .procedure, .includes => r.includeProcedures
  | .procedure, .excludes => r.excludeProcedures

/-- The filters that the rules of a namespace give. -/
def filters (r : RuleLists) : FilterSet := .mergeAll (r.branches.map FilterSet.ofBranch)

/-- Rules of one form give their valid patterns to that form and nothing to the others. -/
theorem flatMap_patterns_map {α : Type} {s : RuleSubject} {q : Polarity} {source : α → String}
    {write : α → Branch RuleNode} (hwrite : ∀ a, (write a).value = .rule s q (source a))
    (l : List α) :
    (l.map write).flatMap (fun b => (FilterSet.ofBranch b).patterns subject polarity)
      = if s = subject ∧ q = polarity then (l.map source).filterMap validPattern? else [] := by
  simp only [List.flatMap_map, FilterSet.patterns_ofBranch, hwrite,
    FilterSet.patterns_ofNode_rule]
  split_ifs
  · rw [List.filterMap_map, List.filterMap_eq_flatMap_toList]
    rfl
  · exact List.flatMap_eq_nil_iff.2 fun _ _ => rfl

/-- A namespace holds the valid patterns of a form in the order of its list. -/
theorem flatMap_patterns_branches (r : RuleLists) (subject : RuleSubject) (polarity : Polarity) :
    (r.branches.map FilterSet.ofBranch).flatMap (·.patterns subject polarity)
      = (r.sources subject polarity).filterMap validPattern? := by
  have hleaf : ∀ s q (l : List String), (l.map (leaf s q)).flatMap
      (fun b => (FilterSet.ofBranch b).patterns subject polarity)
        = if s = subject ∧ q = polarity then l.filterMap validPattern? else [] := by
    intro s q l
    have h := @flatMap_patterns_map subject polarity String s q id (leaf s q) (fun _ => rfl) l
    rwa [List.map_id] at h
  have htable := @flatMap_patterns_map subject polarity IncludeTableRule .table .includes
    (·.pattern) (·.branch) (fun _ => rfl) r.includeTables
  rw [List.flatMap_map, branches]
  simp only [List.flatMap_append, hleaf, htable]
  cases subject <;> cases polarity <;> simp [sources]

theorem patterns_filters (h : ¬ (subject = .table ∧ polarity = .includes)) (r : RuleLists) :
    r.filters.patterns subject polarity
      = mergeNew [] ((r.sources subject polarity).filterMap validPattern?) := by
  rw [filters, FilterSet.patterns_mergeAll h, flatMap_patterns_branches]

theorem includes_ofBranch_leaf (s : RuleSubject) (q : Polarity) (source : String)
    (h : ¬ (s = .table ∧ q = .includes)) :
    (FilterSet.ofBranch (leaf s q source)).tables.includes = [] := by
  have hpatterns : (FilterSet.ofBranch (leaf s q source)).patterns .table .includes = [] := by
    rw [FilterSet.patterns_ofBranch]
    exact (FilterSet.patterns_ofNode_rule s q source .table .includes).trans (if_neg h)
  exact List.map_eq_nil_iff.1 hpatterns

theorem includes_filters (r : RuleLists) :
    r.filters.tables.includes = r.includeTables.filterMap IncludeTableRule.include? := by
  have hleaf : ∀ s q (l : List String), ¬ (s = .table ∧ q = .includes) →
      (l.map (leaf s q)).flatMap (fun b => (FilterSet.ofBranch b).tables.includes) = [] := by
    intro s q l h
    rw [List.flatMap_map]
    exact List.flatMap_eq_nil_iff.2 fun source _ => includes_ofBranch_leaf s q source h
  have htable : ∀ i : IncludeTableRule,
      (FilterSet.ofBranch i.branch).tables.includes = i.include?.toList := by
    intro i
    have hbranch : FilterSet.ofBranch i.branch = (validPattern? i.pattern).elim .empty fun p =>
        { tables := { includes := [⟨p, FilterSet.overrideOf i.branch⟩] } } := rfl
    rw [hbranch, IncludeTableRule.include?]
    rcases validPattern? i.pattern with _ | p <;> rfl
  rw [filters, FilterSet.includes_mergeAll, List.flatMap_map, branches]
  simp (disch := decide) only [List.flatMap_append, hleaf, List.append_nil]
  simp only [List.flatMap_map, htable]
  rw [List.filterMap_eq_flatMap_toList]

/-! ## Rules of several namespaces -/

/-- The rules of two namespaces, list by list. -/
def append (a b : RuleLists) : RuleLists where
  includeTables := a.includeTables ++ b.includeTables
  excludeTables := a.excludeTables ++ b.excludeTables
  includeColumns := a.includeColumns ++ b.includeColumns
  excludeColumns := a.excludeColumns ++ b.excludeColumns
  includeProcedures := a.includeProcedures ++ b.includeProcedures
  excludeProcedures := a.excludeProcedures ++ b.excludeProcedures

/-- The rules of some namespaces, list by list. -/
def together (rs : List RuleLists) : RuleLists := rs.foldr append {}

theorem together_cons (r : RuleLists) (rs : List RuleLists) :
    together (r :: rs) = r.append (together rs) := rfl

theorem append_assoc (a b c : RuleLists) : (a.append b).append c = a.append (b.append c) := by
  simp [append]

theorem includeTables_together (rs : List RuleLists) :
    (together rs).includeTables = rs.flatMap (·.includeTables) := by
  induction rs with
  | nil => rfl
  | cons r rs ih =>
    rw [List.flatMap_cons, ← ih]
    rfl

theorem sources_append (a b : RuleLists) (subject : RuleSubject) (polarity : Polarity) :
    (a.append b).sources subject polarity
      = a.sources subject polarity ++ b.sources subject polarity := by
  cases subject <;> cases polarity <;> simp [append, sources]

theorem sources_together (rs : List RuleLists) (subject : RuleSubject) (polarity : Polarity) :
    (together rs).sources subject polarity = rs.flatMap (·.sources subject polarity) := by
  induction rs with
  | nil => cases subject <;> cases polarity <;> rfl
  | cons r rs ih => rw [List.flatMap_cons, ← ih, together_cons, sources_append]

/-- Rules that are merged namespace by namespace come out as if they stood in one. -/
theorem filters_together (rs : List RuleLists) :
    FilterSet.mergeAll (rs.map filters) = (together rs).filters := by
  refine FilterSet.eq_of_patterns ?_ fun subject polarity h => ?_
  · rw [FilterSet.includes_mergeAll, includes_filters, includeTables_together, List.flatMap_map,
      List.filterMap_flatMap]
    simp only [includes_filters]
  · -- Dropping repetitions within each namespace first changes nothing about the whole.
    rw [FilterSet.patterns_mergeAll h, patterns_filters h, sources_together, List.flatMap_map,
      List.filterMap_flatMap]
    simp only [patterns_filters h]
    exact mergeNew_flatMap_mergeNew _ rs []

theorem value_of_mem_branches {b : Branch RuleNode} (h : b ∈ r.branches) :
    ∃ s q source, b.value = .rule s q source := by
  simp only [branches, List.mem_append, List.mem_map] at h
  rcases h with ((((⟨i, -, rfl⟩ | ⟨source, -, rfl⟩) | ⟨source, -, rfl⟩) | ⟨source, -, rfl⟩) |
    ⟨source, -, rfl⟩) | ⟨source, -, rfl⟩
  · exact ⟨_, _, i.pattern, rfl⟩
  all_goals exact ⟨_, _, source, rfl⟩

end RuleLists

/-- The column rules below an include make the filter that they make by themselves. -/
theorem IncludeTableRule.overrideOf_branch (i : IncludeTableRule) :
    FilterSet.overrideOf i.branch =
      if i.columnRules.filters.tables.columns.isEmpty then none
      else some i.columnRules.filters.tables.columns := by
  have hbranches : i.columnRules.branches = i.branch.children := by
    simp [RuleLists.branches, columnRules, IncludeTableRule.branch, Branch.children]
  have hcolumn : ∀ b ∈ i.branch.children, ∃ q source, b = leaf .column q source := by
    intro b hb
    rcases List.mem_append.1 hb with hb | hb <;> obtain ⟨source, -, rfl⟩ := List.mem_map.1 hb <;>
      exact ⟨_, source, rfl⟩
  have hlegal : i.branch.legalChildren = i.columnRules.branches := by
    rw [hbranches]
    refine List.filter_eq_self.2 fun b hb => ?_
    obtain ⟨q, source, rfl⟩ := hcolumn b hb
    rfl
  have hnode : ∀ b ∈ i.columnRules.branches, FilterSet.ofNode b.value = FilterSet.ofBranch b := by
    intro b hb
    obtain ⟨q, source, rfl⟩ := hcolumn b (hbranches ▸ hb)
    rfl
  rw [FilterSet.overrideOf, hlegal, List.map_congr_left hnode]
  rfl

/-! ## Containers -/

/-- The name of a schema, a blank one taken for missing. -/
def SchemaRules.key (s : SchemaRules) : Option String := Text.nonBlank s.name

/-- The name of a catalog, a blank one taken for missing. -/
def CatalogRules.key (c : CatalogRules) : Option String := Text.nonBlank c.name

/-- A schema as compiling declares it. -/
def SchemaRules.declaration (s : SchemaRules) : SchemaEntry := ⟨s.key, s.rules.filters⟩

/-- A catalog as compiling declares it. -/
def CatalogRules.declaration (c : CatalogRules) : CatalogDeclaration :=
  ⟨c.key, c.rules.filters, c.schemas.map SchemaRules.declaration⟩

theorem filterMap_only {α β γ : Type} {write : α → β} {read : β → Option γ} {f : α → γ}
    {before after : List β} {l : List α} (hbefore : ∀ b ∈ before, read b = none)
    (hread : ∀ a, read (write a) = some (f a)) (hafter : ∀ b ∈ after, read b = none) :
    (before ++ l.map write ++ after).filterMap read = l.map f := by
  rw [List.filterMap_append, List.filterMap_append, List.filterMap_eq_nil_iff.2 hbefore,
    List.filterMap_eq_nil_iff.2 hafter, List.nil_append, List.append_nil, List.filterMap_map,
    ← List.filterMap_eq_map]
  exact List.filterMap_congr fun a _ => hread a

section

variable {node : RuleNode} (cs : List CatalogRules) (ss : List SchemaRules) (r : RuleLists)

/-- Of what stands in a container only its rules go into its filters. -/
theorem inside_container (hnode : node.isContainer = true) :
    FilterSet.inside (.mk node
      (cs.map CatalogRules.branch ++ ss.map SchemaRules.branch ++ r.branches)) = r.filters := by
  have hrules : (r.branches.filter fun b => node.canContain b.value) = r.branches := by
    refine List.filter_eq_self.2 fun b hb => ?_
    obtain ⟨s, q, source, hvalue⟩ := r.value_of_mem_branches hb
    rw [hvalue]
    exact RuleNode.canContain_rule hnode s q source
  have hothers : ∀ b ∈ (cs.map CatalogRules.branch ++ ss.map SchemaRules.branch).filter
      (fun b => node.canContain b.value), FilterSet.ofBranch b = .empty := by
    intro b hb
    simp only [List.mem_filter, List.mem_append, List.mem_map] at hb
    obtain ⟨⟨c, -, rfl⟩ | ⟨s, -, rfl⟩, -⟩ := hb <;> rfl
  rw [FilterSet.inside, Branch.legalChildren, Branch.children, Branch.value, List.filter_append,
    hrules, RuleLists.filters]
  refine FilterSet.mergeAll_congr ?_ fun subject polarity _ => ?_
  · rw [List.map_append, List.flatMap_append, List.flatMap_map, List.flatMap_eq_nil_iff.2]
    · rfl
    · intro b hb
      rw [hothers b hb]
      rfl
  · rw [List.map_append, List.flatMap_append, List.flatMap_map, List.flatMap_eq_nil_iff.2]
    · rfl
    · intro b hb
      rw [hothers b hb, List.eq_nil_iff_forall_not_mem]
      exact fun _ => FilterSet.mem_patterns_empty

theorem declaredSchemas_container (hnode : ∀ name, node.canContain (.schema name) = true) :
    declaredSchemas (.mk node
      (cs.map CatalogRules.branch ++ ss.map SchemaRules.branch ++ r.branches))
        = ss.map SchemaRules.declaration := by
  rw [declaredSchemas, Branch.legalChildren, List.filterMap_filter]
  refine filterMap_only (fun b hb => ?_) (fun s => ?_) fun b hb => ?_
  · obtain ⟨c, -, rfl⟩ := List.mem_map.1 hb
    exact ite_self none
  · have hinside : FilterSet.inside s.branch = s.rules.filters :=
      inside_container [] [] s.rules rfl
    rw [hinside]
    exact if_pos (hnode s.name)
  · obtain ⟨s, q, source, hvalue⟩ := r.value_of_mem_branches hb
    simp [hvalue]

theorem declaredCatalogs_root :
    declaredCatalogs (.mk .root
      (cs.map CatalogRules.branch ++ ss.map SchemaRules.branch ++ r.branches))
        = cs.map CatalogRules.declaration := by
  rw [declaredCatalogs, Branch.legalChildren, List.filterMap_filter, Branch.children,
    List.append_assoc, ← List.nil_append (cs.map CatalogRules.branch ++ _), ← List.append_assoc]
  refine filterMap_only (by simp) (fun c => ?_) fun b hb => ?_
  · have hinside : FilterSet.inside c.branch = c.rules.filters :=
      inside_container [] c.schemas c.rules rfl
    have hschemas : declaredSchemas c.branch = c.schemas.map SchemaRules.declaration :=
      declaredSchemas_container [] c.schemas c.rules fun _ => rfl
    rw [hinside, hschemas]
    exact if_pos rfl
  · rcases List.mem_append.1 hb with hb | hb
    · obtain ⟨s, -, rfl⟩ := List.mem_map.1 hb
      exact ite_self none
    · obtain ⟨s, q, source, hvalue⟩ := r.value_of_mem_branches hb
      simp [hvalue]

end

namespace RulesDocument

variable {d : RulesDocument}

/-- The catalogs that are declared under a key. -/
def catalogsFor (d : RulesDocument) (key : Option String) : List CatalogRules :=
  d.catalogs.filter fun c => c.key == key

/-- The schemas of the catalogs with a key, then those of the document itself. -/
def candidates (d : RulesDocument) (catalogKey : Option String) : List SchemaRules :=
  (d.catalogsFor catalogKey).flatMap (·.schemas) ++ d.schemas

/-- The rules that apply under a pair of keys, namespace by namespace, innermost first. -/
def applicable (d : RulesDocument) (catalogKey schemaKey : Option String) : List RuleLists :=
  ((d.candidates catalogKey).filter fun s => s.key == schemaKey).map (·.rules) ++
    (d.catalogsFor catalogKey).map (·.rules) ++ [d.rules]

/-- The entry for a pair of keys: the filters of the applicable rules together. -/
def schemaEntryAt (d : RulesDocument) (catalogKey schemaKey : Option String) : SchemaEntry :=
  ⟨schemaKey, (RuleLists.together (d.applicable catalogKey schemaKey)).filters⟩

theorem filters_schemaEntryAt (d : RulesDocument) (catalogKey schemaKey : Option String) :
    (d.schemaEntryAt catalogKey schemaKey).filters
      = (RuleLists.together (d.applicable catalogKey schemaKey)).filters := by
  rw [schemaEntryAt]

def catalogEntryAt (d : RulesDocument) (catalogKey : Option String) : CatalogEntry :=
  ⟨catalogKey,
    (entryNames ((d.candidates catalogKey).map SchemaRules.key)).map (d.schemaEntryAt catalogKey)⟩

theorem catalogEntry_eq (d : RulesDocument) (key : Option String) :
    Sieve.catalogEntry d.rules.filters (d.catalogs.map CatalogRules.declaration)
        (d.schemas.map SchemaRules.declaration) key
      = d.catalogEntryAt key := by
  rw [Sieve.catalogEntry_map CatalogRules.schemas fun _ => rfl]
  have hentry : d.schemaEntryAt key = fun schemaKey => ⟨schemaKey, .mergeAll
      (((d.candidates key).filter fun s => s.key == schemaKey).map (fun s => s.rules.filters)
        ++ (d.catalogsFor key).map (fun c => c.rules.filters) ++ [d.rules.filters])⟩ := by
    funext schemaKey
    rw [schemaEntryAt, ← RuleLists.filters_together, applicable, List.map_append, List.map_append,
      List.map_map, List.map_map]
    rfl
  rw [catalogEntryAt, hentry]
  rfl

/-- Compiling a document makes an entry for each catalog key and in it one for each schema key. -/
theorem compile_sieve (d : RulesDocument) :
    (RuleTree.ofDocument d).compile.sieve
      = ⟨(entryNames (d.catalogs.map CatalogRules.key)).map d.catalogEntryAt⟩ := by
  have hbranch := RuleTree.branch_ofDocument d
  have hentry : Sieve.catalogEntry d.rules.filters (d.catalogs.map CatalogRules.declaration)
      (d.schemas.map SchemaRules.declaration) = d.catalogEntryAt := funext d.catalogEntry_eq
  rw [RuleTree.compile, hbranch, Sieve.ofBranch_eq, Sieve.ofDeclarations, branches,
    declaredCatalogs_root, inside_container _ _ _ rfl,
    declaredSchemas_container _ _ _ fun _ => rfl, hentry, List.map_map]
  rfl

/-! ## Two documents -/

variable {d' : RulesDocument} {catalog schema key : Option String}

section

variable (hcatalogs : d.catalogsFor key = d'.catalogsFor key) (hschemas : d.schemas = d'.schemas)
  (hrules : d.rules = d'.rules)

include hcatalogs hschemas in
theorem candidates_congr : d.candidates key = d'.candidates key := by
  rw [candidates, candidates, hcatalogs, hschemas]

include hcatalogs hschemas hrules

theorem schemaEntryAt_congr (schemaKey : Option String) :
    d.schemaEntryAt key schemaKey = d'.schemaEntryAt key schemaKey := by
  rw [schemaEntryAt, schemaEntryAt, applicable, applicable, candidates_congr hcatalogs hschemas,
    hcatalogs, hrules]

/-- Documents with the same catalogs under a key and the same schemas and rules for all have the
same entry for the key. -/
theorem catalogEntryAt_congr : d.catalogEntryAt key = d'.catalogEntryAt key := by
  rw [catalogEntryAt, catalogEntryAt, candidates_congr hcatalogs hschemas,
    funext (schemaEntryAt_congr hcatalogs hschemas hrules)]

end

section

variable (hcatalogs : ∀ key,
  key ∈ d.catalogs.map CatalogRules.key ↔ key ∈ d'.catalogs.map CatalogRules.key)

include hcatalogs

/-- Documents that declare the same catalogs have entries for the same ones. -/
theorem rel_catalog? {R : CatalogEntry → CatalogEntry → Prop}
    (h : ∀ key, Resolves (· ∈ d.catalogs.map CatalogRules.key) catalog key →
      R (d.catalogEntryAt key) (d'.catalogEntryAt key)) :
    Option.Rel R ((RuleTree.ofDocument d).compile.sieve.catalog? catalog)
      ((RuleTree.ofDocument d').compile.sieve.catalog? catalog) := by
  rw [compile_sieve, compile_sieve]
  exact findEntry?_rel (fun _ => rfl) (fun _ => rfl) hcatalogs h

theorem isSome_catalog?_eq :
    ((RuleTree.ofDocument d).compile.sieve.catalog? catalog).isSome
      = ((RuleTree.ofDocument d').compile.sieve.catalog? catalog).isSome :=
  isSome_eq_of_rel (rel_catalog? (R := fun _ _ => True) hcatalogs fun _ _ => trivial)

/-- What is found in a catalog is related if the document declares the same schemas for it and makes
related entries of them. -/
theorem rel_schema? {R : SchemaEntry → SchemaEntry → Prop}
    (h : ∀ key, Resolves (· ∈ d.catalogs.map CatalogRules.key) catalog key →
      (∀ k, k ∈ (d.candidates key).map SchemaRules.key ↔
        k ∈ (d'.candidates key).map SchemaRules.key) ∧
      ∀ schemaKey, R (d.schemaEntryAt key schemaKey) (d'.schemaEntryAt key schemaKey)) :
    Option.Rel R ((RuleTree.ofDocument d).compile.sieve.schema? catalog schema)
      ((RuleTree.ofDocument d').compile.sieve.schema? catalog schema) := by
  have hrel : Option.Rel (fun e e' => Option.Rel R ( findEntry? SchemaEntry.name schema e.schemas)
        ( findEntry? SchemaEntry.name schema e'.schemas))
      ((RuleTree.ofDocument d).compile.sieve.catalog? catalog)
      ((RuleTree.ofDocument d').compile.sieve.catalog? catalog) :=
    rel_catalog? hcatalogs fun key hkey => findEntry?_rel (fun _ => rfl) (fun _ => rfl)
      (h key hkey).1 fun schemaKey _ => (h key hkey).2 schemaKey
  rw [Sieve.schema?, Sieve.schema?]
  generalize (RuleTree.ofDocument d).compile.sieve.catalog? catalog = e at hrel
  generalize (RuleTree.ofDocument d').compile.sieve.catalog? catalog = e' at hrel
  cases hrel with
  | none => exact .none
  | some he => exact he

end

end RulesDocument

end SchemaSieve
