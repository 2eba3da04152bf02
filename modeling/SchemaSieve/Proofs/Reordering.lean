import Mathlib.Tactic
import SchemaSieve.Proofs.Documents

/-!
# Reordered documents

Documents whose lists are in another order, at whatever level, compile to sieves whose lists are in
another order (`RulesDocument.Reordered.sieve`). What a list holds decides about everything but the
columns of tables for which several includes bring column rules: there the first one counts. So the
decisions are the same, those about columns if no include brings any.
-/

namespace SchemaSieve

/-! ## Lists -/

/-- Whether a list has, in whatever order, one related item for each item of another. -/
def Shuffled {α β : Type} (R : α → β → Prop) (xs : List α) (ys : List β) : Prop :=
  ∃ zs, xs.Perm zs ∧ List.Forall₂ R zs ys

namespace Shuffled

variable {α β γ δ : Type} {R : α → β → Prop} {S : γ → δ → Prop} {xs : List α} {ys : List β}

theorem of_forall₂ (h : List.Forall₂ R xs ys) : Shuffled R xs ys := ⟨xs, .refl xs, h⟩

theorem of_perm {R : α → α → Prop} (hrefl : ∀ x, R x x) {ys : List α} (h : xs.Perm ys) :
    Shuffled R xs ys :=
  ⟨ys, h, List.forall₂_same.2 fun x _ => hrefl x⟩

theorem append {xs' : List α} {ys' : List β} (h : Shuffled R xs ys) (h' : Shuffled R xs' ys') :
    Shuffled R (xs ++ xs') (ys ++ ys') := by
  obtain ⟨zs, hperm, hrel⟩ := h
  obtain ⟨zs', hperm', hrel'⟩ := h'
  exact ⟨zs ++ zs', hperm.append hperm', List.rel_append hrel hrel'⟩

theorem map {f : α → γ} {g : β → δ} (h : Shuffled R xs ys) (hf : ∀ x y, R x y → S (f x) (g y)) :
    Shuffled S (xs.map f) (ys.map g) := by
  obtain ⟨zs, hperm, hrel⟩ := h
  exact ⟨zs.map f, hperm.map f, List.rel_map (fun {x y} hxy => hf x y hxy) hrel⟩

theorem filter {p : α → Bool} {q : β → Bool} (h : Shuffled R xs ys)
    (hp : ∀ x y, R x y → p x = q y) : Shuffled R (xs.filter p) (ys.filter q) := by
  obtain ⟨zs, hperm, hrel⟩ := h
  refine ⟨zs.filter p, hperm.filter p, List.rel_filter (fun {x y} hxy => ?_) hrel⟩
  exact Bool.eq_iff_iff.1 (hp x y hxy)

theorem filterMap {f : α → Option γ} {g : β → Option δ} (h : Shuffled R xs ys)
    (hf : ∀ x y, R x y → Option.Rel S (f x) (g y)) :
    Shuffled S (xs.filterMap f) (ys.filterMap g) := by
  obtain ⟨zs, hperm, hrel⟩ := h
  exact ⟨zs.filterMap f, hperm.filterMap f, List.rel_filterMap (fun {x y} hxy => hf x y hxy) hrel⟩

theorem flatMap {f : α → List γ} {g : β → List δ} (h : Shuffled R xs ys)
    (hf : ∀ x y, R x y → Shuffled S (f x) (g y)) : Shuffled S (xs.flatMap f) (ys.flatMap g) := by
  obtain ⟨zs, hperm, hrel⟩ := h
  have hall : Shuffled S (zs.flatMap f) (ys.flatMap g) := by
    clear hperm
    induction hrel with
    | nil => exact .of_forall₂ .nil
    | cons hxy _ ih => exact (hf _ _ hxy).append ih
  obtain ⟨ws, hws, hrel⟩ := hall
  exact ⟨ws, (hperm.flatMap_right f).trans hws, hrel⟩

/-- What related items have in common makes a permutation. -/
theorem perm_flatMap {f : α → List γ} {g : β → List γ} (h : Shuffled R xs ys)
    (hf : ∀ x y, R x y → (f x).Perm (g y)) : (xs.flatMap f).Perm (ys.flatMap g) := by
  obtain ⟨zs, hperm, hrel⟩ :=
    h.flatMap (S := (· = ·)) fun x y hxy => .of_perm (fun _ => rfl) (hf x y hxy)
  rw [List.forall₂_eq_eq_eq] at hrel
  exact hrel ▸ hperm

theorem perm_map {f : α → γ} {g : β → γ} (h : Shuffled R xs ys) (hf : ∀ x y, R x y → f x = g y) :
    (xs.map f).Perm (ys.map g) := by
  obtain ⟨zs, hperm, hrel⟩ := h.map (S := (· = ·)) hf
  rw [List.forall₂_eq_eq_eq] at hrel
  exact hrel ▸ hperm

end Shuffled

theorem perm_mergeNew_nil {α : Type} [DecidableEq α] {xs ys : List α} (h : xs.Perm ys) :
    (mergeNew [] xs).Perm (mergeNew [] ys) :=
  (List.perm_ext_iff_of_nodup (nodup_mergeNew List.nodup_nil _)
    (nodup_mergeNew List.nodup_nil _)).2 fun a => by simp only [mem_mergeNew, h.mem_iff]

/-! ## Reordered sieves -/

/-- The same patterns in another order. -/
def NameFilter.Reordered (f g : NameFilter) : Prop :=
  ∀ polarity, (f.side polarity).Perm (g.side polarity)

structure TableInclude.Reordered (i j : TableInclude) : Prop where
  pattern : i.pattern = j.pattern
  columns : Option.Rel NameFilter.Reordered i.columns j.columns

structure FilterSet.Reordered (f g : FilterSet) : Prop where
  includes : Shuffled TableInclude.Reordered f.tables.includes g.tables.includes
  patterns : ∀ subject polarity, ¬ (subject = .table ∧ polarity = .includes) →
    (f.patterns subject polarity).Perm (g.patterns subject polarity)

structure SchemaEntry.Reordered (e e' : SchemaEntry) : Prop where
  name : e.name = e'.name
  filters : e.filters.Reordered e'.filters

structure CatalogEntry.Reordered (e e' : CatalogEntry) : Prop where
  name : e.name = e'.name
  schemas : Shuffled SchemaEntry.Reordered e.schemas e'.schemas

def Sieve.Reordered (s s' : Sieve) : Prop := Shuffled CatalogEntry.Reordered s.catalogs s'.catalogs

theorem NameFilter.Reordered.accepts_eq {f g : NameFilter} (h : f.Reordered g) (name : String) :
    f.accepts name = g.accepts name := by
  rw [Bool.eq_iff_iff, accepts_iff_passes, accepts_iff_passes]
  exact Passes.congr (fun _ => (h .includes).mem_iff) fun _ => (h .excludes).mem_iff

theorem NameFilter.Reordered.isEmpty_eq {f g : NameFilter} (h : f.Reordered g) :
    f.isEmpty = g.isEmpty := by
  rw [Bool.eq_iff_iff, isEmpty_iff, isEmpty_iff]
  simp only [(h _).mem_iff]

/-- Where no include brings rules for columns, the common ones count. -/
theorem TableFilter.columnFilter_eq_columns {f : TableFilter}
    (hf : ∀ i ∈ f.includes, i.columns = none) (table : String) :
    f.columnFilter table = f.columns := by
  rw [columnFilter, List.findSome?_eq_none_iff.2, Option.getD_none]
  exact fun i hi => hf i (List.mem_of_mem_filter hi)

namespace FilterSet.Reordered

variable {f g : FilterSet}

theorem mem_patterns_iff (h : f.Reordered g) {subject : RuleSubject} {polarity : Polarity}
    {p : NamePattern} : p ∈ f.patterns subject polarity ↔ p ∈ g.patterns subject polarity := by
  by_cases hsq : subject = .table ∧ polarity = .includes
  · obtain ⟨rfl, rfl⟩ := hsq
    exact (h.includes.perm_map fun _ _ hij => hij.pattern).mem_iff
  · exact (h.patterns subject polarity hsq).mem_iff

/-- The order of patterns matters for no table and no procedure. -/
theorem answerAlike (h : f.Reordered g) {kind : ObjectKind} (hkind : kind ≠ .column) :
    f.AnswerAlike g kind := by
  cases kind with
  | catalog | schema => trivial
  | column => exact absurd rfl hkind
  | table =>
    intro name
    rw [Bool.eq_iff_iff, accepts_tables_iff, accepts_tables_iff]
    exact Passes.congr (fun _ => h.mem_patterns_iff) fun _ => h.mem_patterns_iff
  | procedure =>
    intro name
    exact NameFilter.Reordered.accepts_eq (fun _ => h.patterns .procedure _ (by simp)) name

/-- Nor does it for columns where no include brings rules for them. -/
theorem answerAlike_column (h : f.Reordered g)
    (hf : ∀ i ∈ f.tables.includes, i.columns = none) : f.AnswerAlike g .column := by
  have hg : ∀ j ∈ g.tables.includes, j.columns = none := by
    intro j hj
    have hperm := h.includes.perm_map (f := (·.columns.isSome)) (g := (·.columns.isSome))
      fun _ _ hij => isSome_eq_of_rel hij.columns
    obtain ⟨i, hi, hij⟩ := List.mem_map.1 (hperm.mem_iff.2 (List.mem_map_of_mem hj))
    rw [hf i hi] at hij
    exact Option.not_isSome_iff_eq_none.1 (by simp [← hij])
  intro table name
  rw [TableFilter.acceptsColumn, TableFilter.acceptsColumn, TableFilter.columnFilter_eq_columns hf,
    TableFilter.columnFilter_eq_columns hg]
  exact NameFilter.Reordered.accepts_eq (fun _ => h.patterns .column _ (by simp)) name

end FilterSet.Reordered

/-! ## Reordered documents -/

/-- The same pattern with the same column rules in another order. -/
structure IncludeTableRule.Reordered (i j : IncludeTableRule) : Prop where
  pattern : i.pattern = j.pattern
  includeColumns : i.includeColumns.Perm j.includeColumns
  excludeColumns : i.excludeColumns.Perm j.excludeColumns

structure RuleLists.Reordered (r r' : RuleLists) : Prop where
  includeTables : Shuffled IncludeTableRule.Reordered r.includeTables r'.includeTables
  excludeTables : r.excludeTables.Perm r'.excludeTables
  includeColumns : r.includeColumns.Perm r'.includeColumns
  excludeColumns : r.excludeColumns.Perm r'.excludeColumns
  includeProcedures : r.includeProcedures.Perm r'.includeProcedures
  excludeProcedures : r.excludeProcedures.Perm r'.excludeProcedures

structure SchemaRules.Reordered (s s' : SchemaRules) : Prop where
  name : s.name = s'.name
  rules : s.rules.Reordered s'.rules

structure CatalogRules.Reordered (c c' : CatalogRules) : Prop where
  name : c.name = c'.name
  schemas : Shuffled SchemaRules.Reordered c.schemas c'.schemas
  rules : c.rules.Reordered c'.rules

theorem RuleLists.Reordered.refl (r : RuleLists) : r.Reordered r :=
  ⟨.of_perm (fun _ => ⟨rfl, .rfl, .rfl⟩) .rfl, .rfl, .rfl, .rfl, .rfl, .rfl⟩

theorem SchemaRules.Reordered.refl (s : SchemaRules) : s.Reordered s := ⟨rfl, .refl s.rules⟩

theorem CatalogRules.Reordered.refl (c : CatalogRules) : c.Reordered c :=
  ⟨rfl, .of_perm SchemaRules.Reordered.refl .rfl, .refl c.rules⟩

/-- The same rules, where at every level the lists are in another order. -/
structure RulesDocument.Reordered (d d' : RulesDocument) : Prop where
  catalogs : Shuffled CatalogRules.Reordered d.catalogs d'.catalogs
  schemas : Shuffled SchemaRules.Reordered d.schemas d'.schemas
  rules : d.rules.Reordered d'.rules

/-! ## What compiling makes of them -/

namespace RuleLists

variable {r r' : RuleLists}

theorem Reordered.sources (h : r.Reordered r') (subject : RuleSubject) (polarity : Polarity) :
    (r.sources subject polarity).Perm (r'.sources subject polarity) := by
  cases subject with
  | table =>
    cases polarity with
    | includes => exact h.includeTables.perm_map fun _ _ hij => hij.pattern
    | excludes => exact h.excludeTables
  | column =>
    cases polarity with
    | includes => exact h.includeColumns
    | excludes => exact h.excludeColumns
  | procedure =>
    cases polarity with
    | includes => exact h.includeProcedures
    | excludes => exact h.excludeProcedures

theorem Reordered.patterns_filters (h : r.Reordered r') {subject : RuleSubject}
    {polarity : Polarity} (hsq : ¬ (subject = .table ∧ polarity = .includes)) :
    (r.filters.patterns subject polarity).Perm (r'.filters.patterns subject polarity) := by
  rw [RuleLists.patterns_filters hsq, RuleLists.patterns_filters hsq]
  exact perm_mergeNew_nil ((h.sources subject polarity).filterMap validPattern?)

theorem Reordered.together {rs rs' : List RuleLists} (h : Shuffled Reordered rs rs') :
    (together rs).Reordered (together rs') := by
  have hsources : ∀ subject polarity, ((RuleLists.together rs).sources subject polarity).Perm
      ((RuleLists.together rs').sources subject polarity) := by
    intro subject polarity
    rw [sources_together, sources_together]
    exact h.perm_flatMap fun _ _ hr => hr.sources subject polarity
  refine ⟨?_, hsources .table .excludes, hsources .column .includes, hsources .column .excludes,
    hsources .procedure .includes, hsources .procedure .excludes⟩
  rw [includeTables_together, includeTables_together]
  exact h.flatMap fun _ _ hr => hr.includeTables

end RuleLists

namespace IncludeTableRule

variable {i j : IncludeTableRule}

theorem Reordered.include? (h : i.Reordered j) :
    Option.Rel TableInclude.Reordered i.include? j.include? := by
  have hcolumns : i.columnRules.filters.tables.columns.Reordered
      j.columnRules.filters.tables.columns := by
    have hrules : i.columnRules.Reordered j.columnRules :=
      ⟨.of_forall₂ .nil, .nil, h.includeColumns, h.excludeColumns, .nil, .nil⟩
    intro polarity
    have hcolumn : ¬ (RuleSubject.column = .table ∧ polarity = .includes) := by simp
    exact hrules.patterns_filters hcolumn
  rw [IncludeTableRule.include?, IncludeTableRule.include?, h.pattern, overrideOf_branch,
    overrideOf_branch, hcolumns.isEmpty_eq]
  rcases validPattern? j.pattern with _ | p
  · exact .none
  · refine .some ⟨rfl, ?_⟩
    dsimp only
    split_ifs
    · exact .none
    · exact .some hcolumns

end IncludeTableRule

theorem RuleLists.Reordered.filters {r r' : RuleLists} (h : r.Reordered r') :
    r.filters.Reordered r'.filters := by
  refine ⟨?_, fun _ _ hsq => h.patterns_filters hsq⟩
  rw [includes_filters, includes_filters]
  exact h.includeTables.filterMap fun _ _ hij => hij.include?

theorem SchemaRules.Reordered.key {s s' : SchemaRules} (h : s.Reordered s') : s.key = s'.key :=
  congrArg Text.nonBlank h.name

theorem CatalogRules.Reordered.key {c c' : CatalogRules} (h : c.Reordered c') : c.key = c'.key :=
  congrArg Text.nonBlank h.name

namespace RulesDocument

variable {d d' : RulesDocument}

namespace Reordered

theorem catalogsFor (h : d.Reordered d') (key : Option String) :
    Shuffled CatalogRules.Reordered (d.catalogsFor key) (d'.catalogsFor key) :=
  h.catalogs.filter fun _ _ hc => by rw [hc.key]

theorem candidates (h : d.Reordered d') (key : Option String) :
    Shuffled SchemaRules.Reordered (d.candidates key) (d'.candidates key) :=
  ((h.catalogsFor key).flatMap fun _ _ hc => hc.schemas).append h.schemas

theorem applicable (h : d.Reordered d') (catalogKey schemaKey : Option String) :
    Shuffled RuleLists.Reordered (d.applicable catalogKey schemaKey)
      (d'.applicable catalogKey schemaKey) := by
  have hschemas := (h.candidates catalogKey).filter (p := fun s => s.key == schemaKey)
    (q := fun s => s.key == schemaKey) fun _ _ hs => by rw [hs.key]
  have hcatalogs := (h.catalogsFor catalogKey).map fun _ _ hc => CatalogRules.Reordered.rules hc
  have hroot : Shuffled RuleLists.Reordered [d.rules] [d'.rules] :=
    .of_forall₂ (.cons h.rules .nil)
  exact ((hschemas.map fun _ _ hs => hs.rules).append hcatalogs).append hroot

theorem schemaEntryAt (h : d.Reordered d') (catalogKey schemaKey : Option String) :
    (d.schemaEntryAt catalogKey schemaKey).Reordered (d'.schemaEntryAt catalogKey schemaKey) := by
  refine ⟨rfl, ?_⟩
  rw [filters_schemaEntryAt, filters_schemaEntryAt]
  exact (RuleLists.Reordered.together (h.applicable catalogKey schemaKey)).filters

theorem mem_catalogKeys (h : d.Reordered d') (key : Option String) :
    key ∈ d.catalogs.map CatalogRules.key ↔ key ∈ d'.catalogs.map CatalogRules.key :=
  (h.catalogs.perm_map fun _ _ hc => hc.key).mem_iff

theorem mem_schemaKeys (h : d.Reordered d') (catalogKey key : Option String) :
    key ∈ (d.candidates catalogKey).map SchemaRules.key ↔
      key ∈ (d'.candidates catalogKey).map SchemaRules.key :=
  ((h.candidates catalogKey).perm_map fun _ _ hs => hs.key).mem_iff

/-- The same entries for the same keys, in another order. -/
theorem shuffled_entries {α : Type} {R : α → α → Prop} {entry entry' : Option String → α}
    {names names' : List (Option String)} (hnames : ∀ k, k ∈ names ↔ k ∈ names')
    (hentry : ∀ k, R (entry k) (entry' k)) :
    Shuffled R ((entryNames names).map entry) ((entryNames names').map entry') :=
  (Shuffled.of_perm (R := (· = ·)) (fun _ => rfl) (perm_entryNames hnames)).map
    fun k _ hk => hk ▸ hentry k

/-- Documents in another order compile to sieves in another order. -/
theorem sieve (h : d.Reordered d') :
    (RuleTree.ofDocument d).compile.sieve.Reordered (RuleTree.ofDocument d').compile.sieve := by
  rw [compile_sieve, compile_sieve]
  exact shuffled_entries h.mem_catalogKeys fun catalogKey =>
    ⟨rfl, shuffled_entries (h.mem_schemaKeys catalogKey) (h.schemaEntryAt catalogKey)⟩

end Reordered

/-! ## Decisions -/

/-- The rules of all namespaces. -/
def ruleLists (d : RulesDocument) : List RuleLists :=
  d.catalogs.flatMap (fun c => c.rules :: c.schemas.map (·.rules)) ++ d.schemas.map (·.rules) ++
    [d.rules]

/-- Whether no include of tables brings rules for their columns. -/
def OverrideFree (d : RulesDocument) : Prop :=
  ∀ r ∈ d.ruleLists, ∀ i ∈ r.includeTables, i.includeColumns = [] ∧ i.excludeColumns = []

instance (d : RulesDocument) : Decidable d.OverrideFree :=
  inferInstanceAs (Decidable (∀ r ∈ d.ruleLists, ∀ i ∈ r.includeTables, _))

theorem mem_ruleLists_of_mem_applicable {catalogKey schemaKey : Option String} {r : RuleLists}
    (h : r ∈ d.applicable catalogKey schemaKey) : r ∈ d.ruleLists := by
  simp only [applicable, candidates, catalogsFor, ruleLists, List.mem_append, List.mem_map,
    List.mem_filter, List.mem_flatMap, List.mem_cons, List.not_mem_nil, or_false] at h ⊢
  rcases h with (⟨s, ⟨⟨c, ⟨hc, -⟩, hs⟩ | hs, -⟩, rfl⟩ | ⟨c, ⟨hc, -⟩, rfl⟩) | rfl
  · exact .inl (.inl ⟨c, hc, .inr ⟨s, hs, rfl⟩⟩)
  · exact .inl (.inr ⟨s, hs, rfl⟩)
  · exact .inl (.inl ⟨c, hc, .inl rfl⟩)
  · exact .inr rfl

theorem OverrideFree.columns_eq_none (h : d.OverrideFree) {catalogKey schemaKey : Option String}
    {i : TableInclude} (hi : i ∈ (d.schemaEntryAt catalogKey schemaKey).filters.tables.includes) :
    i.columns = none := by
  rw [filters_schemaEntryAt, RuleLists.includes_filters, RuleLists.includeTables_together] at hi
  obtain ⟨rule, hrule, hi⟩ := List.mem_filterMap.1 hi
  obtain ⟨r, hr, hrule⟩ := List.mem_flatMap.1 hrule
  obtain ⟨hinclude, hexclude⟩ := h r (mem_ruleLists_of_mem_applicable hr) rule hrule
  have hnone : FilterSet.overrideOf rule.branch = none := by
    rw [IncludeTableRule.overrideOf_branch, IncludeTableRule.columnRules, hinclude, hexclude]
    rfl
  rw [IncludeTableRule.include?, hnone] at hi
  obtain ⟨p, -, rfl⟩ := Option.map_eq_some_iff.1 hi
  rfl

/-- The order of a document decides about no catalog, schema, table or procedure, and about columns
at most where an include of tables brings rules for them. -/
theorem Reordered.decide_reordered (h : d.Reordered d') :
    (∀ path kind, kind ≠ .column →
      (RuleTree.ofDocument d).compile.sieve.decide path kind
        = (RuleTree.ofDocument d').compile.sieve.decide path kind) ∧
    (d.OverrideFree → ∀ path,
      (RuleTree.ofDocument d).compile.sieve.decide path .column
        = (RuleTree.ofDocument d').compile.sieve.decide path .column) := by
  have hdecide : ∀ path kind, (∀ catalogKey schemaKey,
      (d.schemaEntryAt catalogKey schemaKey).filters.AnswerAlike
        (d'.schemaEntryAt catalogKey schemaKey).filters kind) →
      (RuleTree.ofDocument d).compile.sieve.decide path kind
        = (RuleTree.ofDocument d').compile.sieve.decide path kind := fun path kind halike =>
    Sieve.decide_congr (fun _ _ => isSome_catalog?_eq h.mem_catalogKeys) fun _ _ =>
      rel_schema? h.mem_catalogKeys fun key _ => ⟨h.mem_schemaKeys key, halike key⟩
  refine ⟨fun path kind hkind => hdecide path kind fun catalogKey schemaKey => ?_,
    fun hfree path => hdecide path .column fun catalogKey schemaKey => ?_⟩
  · exact (h.schemaEntryAt catalogKey schemaKey).filters.answerAlike hkind
  · exact (h.schemaEntryAt catalogKey schemaKey).filters.answerAlike_column
      fun _ hi => hfree.columns_eq_none hi

/-- Two catalogs of one name and one without, with a blank and an invalid pattern among the
others. -/
def threeCatalogs : RulesDocument where
  catalogs :=
    [{ name := some "SALES", rules := { includeTables := [.bare "A", .bare "B|C"] } },
      { name := some "SALES", schemas := [{ name := some "EU" }, { name := some " " }],
        rules := { excludeTables := ["C"], includeColumns := ["ID", "("] } },
      { rules := { excludeTables := [" ", "B"] } }]

/-- The same from back to front. -/
def threeCatalogsBackwards : RulesDocument where
  catalogs :=
    [{ rules := { excludeTables := ["B", " "] } },
      { name := some "SALES", schemas := [{ name := some " " }, { name := some "EU" }],
        rules := { excludeTables := ["C"], includeColumns := ["(", "ID"] } },
      { name := some "SALES", rules := { includeTables := [.bare "B|C", .bare "A"] } }]

theorem decide_reordered_threeCatalogs :
    threeCatalogs.Reordered threeCatalogsBackwards ∧ threeCatalogs.OverrideFree ∧
      ObjectKind.table ≠ .column ∧
        (RuleTree.ofDocument threeCatalogsBackwards).compile.sieve.decide
          ⟨some "SALES", some "EU", none, some "B"⟩ .table = .ok .included ∧
        (RuleTree.ofDocument threeCatalogsBackwards).compile.sieve.decide
          ⟨some "SALES", some "EU", some "B", some "ID"⟩ .column = .ok .included := by
  have hreordered : threeCatalogs.Reordered threeCatalogsBackwards := by
    refine ⟨⟨threeCatalogs.catalogs.reverse, (List.reverse_perm _).symm, ?_⟩,
      .of_forall₂ .nil, .refl _⟩
    refine .cons ⟨rfl, .of_forall₂ .nil, ?_⟩ (.cons ⟨rfl, ?_, ?_⟩ (.cons ⟨rfl, ?_, ?_⟩ .nil))
    · exact ⟨.of_forall₂ .nil, by decide, .rfl, .rfl, .rfl, .rfl⟩
    · exact .of_perm SchemaRules.Reordered.refl (by decide)
    · exact ⟨.of_forall₂ .nil, .rfl, by decide, .rfl, .rfl, .rfl⟩
    · exact .of_forall₂ .nil
    · exact ⟨.of_perm (fun _ => ⟨rfl, .rfl, .rfl⟩) (by decide), .rfl, .rfl, .rfl, .rfl, .rfl⟩
  have hfree : threeCatalogs.OverrideFree := by decide
  have hkind : ObjectKind.table ≠ .column := by decide
  refine ⟨hreordered, hfree, hkind, ?_, ?_⟩
  · rw [← hreordered.decide_reordered.1 ⟨some "SALES", some "EU", none, some "B"⟩ .table hkind]
    decide +kernel
  · rw [← hreordered.decide_reordered.2 hfree ⟨some "SALES", some "EU", some "B", some "ID"⟩]
    decide +kernel

end RulesDocument

end SchemaSieve
