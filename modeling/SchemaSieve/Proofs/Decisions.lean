import Mathlib.Tactic
import SchemaSieve.Filter.Decide
import SchemaSieve.Proofs.Scopes

/-!
# Decisions of a compiled rule tree

What a compiled rule tree decides about an object is read off the rules in the containers that
apply to it. Tables and procedures pass the rules about them in all these containers together. So do
columns, unless an include of their table brings column rules: then the first such include,
innermost container first, decides alone.
-/

namespace SchemaSieve

/-! ## Lists -/

section

variable {α β : Type}

theorem flatMap_filter (q : α → Bool) (f : α → List β) :
    ∀ l : List α, (l.filter q).flatMap f = l.flatMap fun x => if q x then f x else []
  | [] => rfl
  | x :: l => by
    rw [List.filter_cons, List.flatMap_cons]
    split_ifs with h
    · rw [List.flatMap_cons, flatMap_filter q f l]
    · rw [List.nil_append, flatMap_filter q f l]

theorem findSome?_filter_eq (q : α → Bool) (f : α → Option β) :
    ∀ l : List α, (l.filter q).findSome? f = (l.find? fun x => q x && (f x).isSome).bind f
  | [] => rfl
  | x :: l => by
    have ih := findSome?_filter_eq q f l
    rw [List.filter_cons, List.find?_cons]
    rcases q x
    · exact ih
    · rcases hf : f x with _ | y
      · simpa [hf] using ih
      · simp [hf]

end

namespace Decision

@[simp] theorem ofBool_eq_included_iff {b : Bool} : ofBool b = included ↔ b = true := by
  cases b <;> simp [ofBool]

theorem eq_excluded_iff {d : Decision} : d = excluded ↔ ¬ d = included := by
  cases d <;> simp

end Decision

namespace Sieve

variable {s : Sieve} {path : ObjectPath}

theorem decideInScope_eq_included_iff {test : FilterSet → Bool} :
    s.decideInScope path test = .included ↔
      ∃ e, s.scope? path = some e ∧ test e.filters = true := by
  rw [decideInScope, Decision.ofBool_eq_included_iff, Option.any_eq_true]

/-- How filters answer about a table or a procedure. -/
def testOf (subject : RuleSubject) (name : String) (f : FilterSet) : Bool :=
  match subject with
  | .table | .column => f.tables.accepts name
  | .procedure => f.procedures.accepts name

theorem testOf_iff {subject : RuleSubject} (hs : subject ≠ .column) {name : String}
    {f : FilterSet} :
    testOf subject name f = true ↔
      Passes (· ∈ f.patterns subject .includes) (· ∈ f.patterns subject .excludes) name := by
  cases subject with
  | table => exact FilterSet.accepts_tables_iff
  | column => exact absurd rfl hs
  | procedure => exact NameFilter.accepts_iff_passes

theorem decide_subject {subject : RuleSubject} (hs : subject ≠ .column) {name : String}
    (hn : Text.nonBlank path.name = some name) :
    s.decide path subject.kind = .ok (s.decideInScope path (testOf subject name)) := by
  cases subject with
  | table => simp only [decide, hn, RuleSubject.kind]; rfl
  | column => exact absurd rfl hs
  | procedure => simp only [decide, hn, RuleSubject.kind]; rfl

theorem decide_column {table name : String} (hn : Text.nonBlank path.name = some name)
    (ht : Text.nonBlank path.table = some table) :
    s.decide path .column
      = .ok (s.decideInScope path fun f => f.tables.acceptsColumn table name) := by
  simp only [decide, hn, ht]

end Sieve

/-- Whether filters answer alike about whatever of a kind is asked. -/
def FilterSet.AnswerAlike (f g : FilterSet) : ObjectKind → Prop
  | .catalog | .schema => True
  | .table => ∀ name, f.tables.accepts name = g.tables.accepts name
  | .procedure => ∀ name, f.procedures.accepts name = g.procedures.accepts name
  | .column => ∀ table name, f.tables.acceptsColumn table name = g.tables.acceptsColumn table name

theorem FilterSet.AnswerAlike.refl (f : FilterSet) (kind : ObjectKind) : f.AnswerAlike f kind := by
  cases kind with
  | catalog | schema => trivial
  | table | procedure => exact fun _ => rfl
  | column => exact fun _ _ => rfl

namespace Sieve

variable {s s' : Sieve} {path : ObjectPath} {kind : ObjectKind}

theorem decideInScope_congr {R : SchemaEntry → SchemaEntry → Prop} {test : FilterSet → Bool}
    (h : Option.Rel R (s.scope? path) (s'.scope? path))
    (htest : ∀ e e', R e e' → test e.filters = test e'.filters) :
    s.decideInScope path test = s'.decideInScope path test := by
  rw [decideInScope, decideInScope, any_eq_of_rel h htest]

/-- Sieves decide alike if they have entries for the same names and the filters in these answer
alike. -/
theorem decide_congr
    (hcatalog : kind = .catalog →
      ∀ name, (s.catalog? (some name)).isSome = (s'.catalog? (some name)).isSome)
    (hschema : kind ≠ .catalog →
      ∀ schema, Option.Rel (fun e e' => e.filters.AnswerAlike e'.filters kind)
        (s.schema? (Text.nonBlank path.catalog) schema)
        (s'.schema? (Text.nonBlank path.catalog) schema)) :
    s.decide path kind = s'.decide path kind := by
  unfold decide
  rcases Text.nonBlank path.name with _ | name
  · rfl
  · cases kind with
    | catalog => simp only [hcatalog rfl name]
    | schema => simp only [isSome_eq_of_rel (hschema (by simp) (some name))]
    | table =>
      exact congrArg Except.ok
        (decideInScope_congr (hschema (by simp) _) fun _ _ he => he name)
    | procedure =>
      exact congrArg Except.ok
        (decideInScope_congr (hschema (by simp) _) fun _ _ he => he name)
    | column =>
      rcases Text.nonBlank path.table with _ | table
      · rfl
      · exact congrArg Except.ok
          (decideInScope_congr (hschema (by simp) _) fun _ _ he => he table name)

end Sieve

namespace RuleTree

variable {t : RuleTree}

/-! ## Tables and procedures -/

/-- Whether a name passes the rules about a subject in all containers that apply under a pair of
keys. -/
def PassesIn (t : RuleTree) (catalogKey schemaKey : Option String) (subject : RuleSubject)
    (name : String) : Prop :=
  Passes (fun p => ∃ id, t.Applies catalogKey schemaKey id ∧ t.HasRule id subject .includes p)
    (fun p => ∃ id, t.Applies catalogKey schemaKey id ∧ t.HasRule id subject .excludes p) name

theorem passesIn_iff (ht : t.WellFormed) {catalogKey schemaKey : Option String}
    {subject : RuleSubject} {name : String} :
    t.PassesIn catalogKey schemaKey subject name ↔
      Passes (· ∈ (t.schemaEntryAt catalogKey schemaKey).filters.patterns subject .includes)
        (· ∈ (t.schemaEntryAt catalogKey schemaKey).filters.patterns subject .excludes) name :=
  Passes.congr (fun _ => (mem_patterns_schemaEntryAt ht).symm)
    fun _ => (mem_patterns_schemaEntryAt ht).symm

theorem decideInScope_compile_iff (ht : t.WellFormed) {path : ObjectPath}
    {test : FilterSet → Bool} :
    t.compile.sieve.decideInScope path test = .included ↔
      ∃ catalogKey schemaKey,
        t.Scoped (Text.nonBlank path.catalog) (Text.nonBlank path.schema) catalogKey schemaKey ∧
          test (t.schemaEntryAt catalogKey schemaKey).filters = true := by
  rw [Sieve.decideInScope_eq_included_iff]
  simp only [Sieve.scope?, schema?_compile ht]
  constructor
  · rintro ⟨-, ⟨catalogKey, schemaKey, hkeys, rfl⟩, htest⟩
    exact ⟨catalogKey, schemaKey, hkeys, htest⟩
  · rintro ⟨catalogKey, schemaKey, hkeys, htest⟩
    exact ⟨_, ⟨catalogKey, schemaKey, hkeys, rfl⟩, htest⟩

theorem decide_subject_iff (ht : t.WellFormed) {subject : RuleSubject} (hs : subject ≠ .column)
    {path : ObjectPath} {name : String} (hn : Text.nonBlank path.name = some name) :
    t.compile.sieve.decide path subject.kind = .ok .included ↔
      ∃ catalogKey schemaKey,
        t.Scoped (Text.nonBlank path.catalog) (Text.nonBlank path.schema) catalogKey schemaKey ∧
          t.PassesIn catalogKey schemaKey subject name := by
  rw [Sieve.decide_subject hs hn, Except.ok.injEq, decideInScope_compile_iff ht]
  simp only [Sieve.testOf_iff hs, passesIn_iff ht]

/-! ## Columns -/

/-- The valid includes of tables in the containers that apply, innermost container first. -/
def tableIncludes (t : RuleTree) (catalogKey schemaKey : Option String) :
    List (Nat × NamePattern) :=
  (t.applicable catalogKey schemaKey).flatMap (t.validRules .table .includes)

/-- Whether an include matches a table and brings a valid column rule. -/
def overrides (t : RuleTree) (table : String) (i : Nat × NamePattern) : Bool :=
  i.2.accepts table &&
    !(t.validRules .column .includes i.1 ++ t.validRules .column .excludes i.1).isEmpty

/-- The filter of the column rules below a rule, if there is a valid one. -/
def overrideAt (t : RuleTree) (id : Nat) : Option NameFilter :=
  (t.node? id).bind fun node => FilterSet.overrideOf (t.branchAt id node)

/-- Below an include of tables, the legal rules are those about columns. -/
theorem mem_columns_below (ht : t.WellFormed) (id : Nat) (source : String) {polarity : Polarity}
    {p : NamePattern} :
    p ∈ (FilterSet.mergeAll ((t.branchAt id (.includeTable source)).legalChildren.map
        fun c => FilterSet.ofNode c.value)).tables.columns.side polarity ↔
      t.HasRule id .column polarity p := by
  have hpatterns : p ∈ (FilterSet.mergeAll ((t.branchAt id (.includeTable source)).legalChildren.map
        fun c => FilterSet.ofNode c.value)).patterns .column polarity ↔ _ :=
    FilterSet.mem_patterns_mergeAll
  refine hpatterns.trans ?_
  rw [legalChildren_branchAt ht]
  simp only [List.map_map, List.mem_map, List.mem_filter, Function.comp_apply]
  constructor
  · rintro ⟨-, ⟨⟨c, n⟩, ⟨hmem, -⟩, rfl⟩, hp⟩
    obtain ⟨src, rfl, hv⟩ : ∃ src, n = .rule .column polarity src ∧ validPattern? src = some p :=
      FilterSet.mem_patterns_ofNode.1 hp
    obtain ⟨hparent, hnode⟩ := (mem_childNodes ht.links).1 hmem
    exact ⟨c, src, hparent, hnode, hv⟩
  · rintro ⟨c, src, hparent, hnode, hv⟩
    have hmem := (mem_childNodes ht.links).2 ⟨hparent, hnode⟩
    refine ⟨_, ⟨(c, .rule .column polarity src), ⟨hmem, rfl⟩, rfl⟩, ?_⟩
    exact FilterSet.mem_patterns_ofNode.2 ⟨src, rfl, hv⟩

theorem overrideAt_eq_some_iff (ht : t.WellFormed) {id : Nat} {source : String}
    (hn : t.node? id = some (.includeTable source)) :
    ((t.overrideAt id).isSome = true ↔ ∃ polarity p, t.HasRule id .column polarity p) ∧
      ∀ f, t.overrideAt id = some f →
        ∀ polarity p, p ∈ f.side polarity ↔ t.HasRule id .column polarity p := by
  have hmem := fun polarity p => @mem_columns_below t ht id source polarity p
  simp only [overrideAt, hn, Option.bind_some, FilterSet.overrideOf]
  constructor
  · split_ifs with he
    · rw [NameFilter.isEmpty_iff] at he
      simp only [Option.isSome_none, Bool.false_eq_true, false_iff, not_exists]
      intro polarity p hr
      exact he polarity p ((hmem polarity p).2 hr)
    · rw [NameFilter.isEmpty_iff] at he
      simp only [Option.isSome_some, true_iff]
      push Not at he
      obtain ⟨polarity, p, hp⟩ := he
      exact ⟨polarity, p, (hmem polarity p).1 hp⟩
  · intro f hf polarity p
    split_ifs at hf with he
    cases hf
    exact hmem polarity p

/-- The includes of a container are its valid includes of tables, in their order. -/
theorem includes_filtersAt (ht : t.WellFormed) {id : Nat} {node : RuleNode}
    (hn : t.node? id = some node) (hc : node.isContainer = true) :
    (t.filtersAt id).tables.includes
      = (t.validRules .table .includes id).map fun i => ⟨i.2, t.overrideAt i.1⟩ := by
  rw [filtersAt, hn, Option.elim_some, FilterSet.inside, FilterSet.includes_mergeAll,
    legalChildren_branchAt ht, List.flatMap_map, List.flatMap_map, flatMap_filter, validRules,
    List.map_filterMap, List.filterMap_eq_flatMap_toList]
  refine List.flatMap_congr ?_
  rintro ⟨c, _ | _ | _ | ⟨s, q, source⟩⟩ hmem
  · simp [FilterSet.ofBranch, FilterSet.ofNode, branchAt, Branch.value, FilterSet.empty]
  · simp [FilterSet.ofBranch, FilterSet.ofNode, branchAt, Branch.value, FilterSet.empty]
  · simp [FilterSet.ofBranch, FilterSet.ofNode, branchAt, Branch.value, FilterSet.empty]
  · have hcan := RuleNode.canContain_rule hc s q source
    have hnode := ((mem_childNodes ht.links).1 hmem).2
    simp only [hcan, if_true]
    by_cases hsq : s = .table ∧ q = .includes
    · obtain ⟨rfl, rfl⟩ := hsq
      rcases hv : validPattern? source with _ | v
      · simp [FilterSet.ofBranch, branchAt, Branch.value, hv, FilterSet.empty]
      · simp [FilterSet.ofBranch, branchAt, Branch.value, hv, overrideAt, hnode]
    · rw [if_neg hsq]
      have hne : (FilterSet.ofBranch (t.branchAt c (.rule s q source))).patterns .table .includes
          = [] := by
        rw [FilterSet.patterns_ofBranch, List.eq_nil_iff_forall_not_mem]
        intro p hp
        obtain ⟨_, heq, -⟩ := FilterSet.mem_patterns_ofNode.1 hp
        cases heq
        exact hsq ⟨rfl, rfl⟩
      simpa [FilterSet.patterns] using hne

/-- The includes of an entry are those of the applicable containers, innermost first. -/
theorem includes_schemaEntryAt (ht : t.WellFormed) (catalogKey schemaKey : Option String) :
    (t.schemaEntryAt catalogKey schemaKey).filters.tables.includes
      = (t.tableIncludes catalogKey schemaKey).map fun i => ⟨i.2, t.overrideAt i.1⟩ := by
  rw [schemaEntryAt, FilterSet.includes_mergeAll, List.flatMap_map, tableIncludes,
    List.map_flatMap]
  refine List.flatMap_congr fun id hid => ?_
  obtain ⟨node, hn, hc⟩ := ((mem_applicable ht).1 hid).isContainer ht
  exact includes_filtersAt ht hn hc

theorem node?_of_mem_tableIncludes (ht : t.WellFormed) {catalogKey schemaKey : Option String}
    {i : Nat × NamePattern} (h : i ∈ t.tableIncludes catalogKey schemaKey) :
    ∃ source, t.node? i.1 = some (.includeTable source) := by
  rw [tableIncludes, List.mem_flatMap] at h
  obtain ⟨place, -, hi⟩ := h
  obtain ⟨source, -, hn, -⟩ := (mem_validRules ht).1 hi
  exact ⟨source, hn⟩

theorem overrides_eq (ht : t.WellFormed) {catalogKey schemaKey : Option String} (table : String)
    {i : Nat × NamePattern} (h : i ∈ t.tableIncludes catalogKey schemaKey) :
    t.overrides table i = (i.2.accepts table && (t.overrideAt i.1).isSome) := by
  obtain ⟨source, hn⟩ := node?_of_mem_tableIncludes ht h
  have hsome := (overrideAt_eq_some_iff ht hn).1
  have hrules : (!(t.validRules .column .includes i.1
        ++ t.validRules .column .excludes i.1).isEmpty) = true ↔
      ∃ polarity p, t.HasRule i.1 .column polarity p := by
    rw [Bool.not_eq_true', ← Bool.not_eq_true, List.isEmpty_iff, List.append_eq_nil_iff,
      List.eq_nil_iff_forall_not_mem, List.eq_nil_iff_forall_not_mem]
    simp only [hasRule_iff ht]
    constructor
    · intro hne
      by_contra hno
      push Not at hno
      exact hne ⟨fun r => hno .includes r.2 r.1, fun r => hno .excludes r.2 r.1⟩
    · rintro ⟨_ | _, p, r, hr⟩ ⟨hi, he⟩
      · exact hi _ hr
      · exact he _ hr
  rw [overrides, Bool.eq_iff_iff.2 (hrules.trans hsome.symm)]

/-- The column filter for a table is that of the first include which overrides it, if there is one,
else that of the entry. -/
theorem columnFilter_schemaEntryAt (ht : t.WellFormed) (catalogKey schemaKey : Option String)
    (table : String) :
    (t.schemaEntryAt catalogKey schemaKey).filters.tables.columnFilter table
      = (((t.tableIncludes catalogKey schemaKey).find? (t.overrides table)).bind
          fun i => t.overrideAt i.1).getD
        (t.schemaEntryAt catalogKey schemaKey).filters.tables.columns := by
  rw [TableFilter.columnFilter, findSome?_filter_eq, includes_schemaEntryAt ht, List.find?_map,
    Option.bind_map]
  have hfind : (t.tableIncludes catalogKey schemaKey).find?
        ((fun i : TableInclude => i.pattern.accepts table && i.columns.isSome) ∘
          fun i => ⟨i.2, t.overrideAt i.1⟩)
      = (t.tableIncludes catalogKey schemaKey).find? (t.overrides table) :=
    List.find?_congr fun i hi => (overrides_eq ht table hi).symm
  rw [hfind]
  rfl

/-- Whether the name of a column of a table passes under a pair of keys: by the rules below the
first include which overrides the columns of the table, else by those in all containers that
apply. -/
def PassesColumn (t : RuleTree) (catalogKey schemaKey : Option String) (table name : String) :
    Prop :=
  match (t.tableIncludes catalogKey schemaKey).find? (t.overrides table) with
  | some i => Passes (t.HasRule i.1 .column .includes) (t.HasRule i.1 .column .excludes) name
  | none => t.PassesIn catalogKey schemaKey .column name

theorem acceptsColumn_schemaEntryAt (ht : t.WellFormed) {catalogKey schemaKey : Option String}
    {table name : String} :
    (t.schemaEntryAt catalogKey schemaKey).filters.tables.acceptsColumn table name = true ↔
      t.PassesColumn catalogKey schemaKey table name := by
  rw [TableFilter.acceptsColumn, columnFilter_schemaEntryAt ht, NameFilter.accepts_iff_passes,
    PassesColumn]
  rcases hfind : (t.tableIncludes catalogKey schemaKey).find? (t.overrides table) with _ | i
  · have hpasses := @passesIn_iff t ht catalogKey schemaKey .column name
    simp only [FilterSet.patterns] at hpasses
    rw [Option.bind_none, Option.getD_none]
    exact hpasses.symm
  · have hi := List.mem_of_find?_eq_some hfind
    have ho := List.find?_some hfind
    rw [overrides_eq ht table hi, Bool.and_eq_true, Option.isSome_iff_exists] at ho
    obtain ⟨-, f, hf⟩ := ho
    obtain ⟨source, hn⟩ := node?_of_mem_tableIncludes ht hi
    have hside := (overrideAt_eq_some_iff ht hn).2 f hf
    rw [Option.bind_some, hf, Option.getD_some]
    exact Passes.congr (hside .includes) (hside .excludes)

theorem decide_column_iff (ht : t.WellFormed) {path : ObjectPath} {table name : String}
    (hn : Text.nonBlank path.name = some name) (htable : Text.nonBlank path.table = some table) :
    t.compile.sieve.decide path .column = .ok .included ↔
      ∃ catalogKey schemaKey,
        t.Scoped (Text.nonBlank path.catalog) (Text.nonBlank path.schema) catalogKey schemaKey ∧
          t.PassesColumn catalogKey schemaKey table name := by
  rw [Sieve.decide_column hn htable, Except.ok.injEq, decideInScope_compile_iff ht]
  simp only [acceptsColumn_schemaEntryAt ht]

/-! ## Every rule tree -/

theorem ok_excluded_iff {d : Decision} :
    (.ok d : Except Finding Decision) = .ok .excluded ↔
      ¬ (.ok d : Except Finding Decision) = .ok .included := by
  rw [Except.ok.injEq, Except.ok.injEq, Decision.eq_excluded_iff]

/-- A table or procedure is included exactly if the names of its catalog and its schema are looked
up under keys, and its own name passes the rules about its kind in all containers that apply under
these. Otherwise it is excluded. -/
theorem Reachable.decide_iff_passesIn (ht : t.Reachable) {subject : RuleSubject}
    (hs : subject ≠ .column) (catalog schema table : Option String) {name : String}
    (hn : Text.isBlank name = false) :
    (t.compile.sieve.decide ⟨catalog, schema, table, some name⟩ subject.kind = .ok .included ↔
      ∃ catalogKey schemaKey,
        t.Scoped (Text.nonBlank catalog) (Text.nonBlank schema) catalogKey schemaKey ∧
          t.PassesIn catalogKey schemaKey subject name) ∧
    (t.compile.sieve.decide ⟨catalog, schema, table, some name⟩ subject.kind = .ok .excluded ↔
      ¬ ∃ catalogKey schemaKey,
        t.Scoped (Text.nonBlank catalog) (Text.nonBlank schema) catalogKey schemaKey ∧
          t.PassesIn catalogKey schemaKey subject name) := by
  have hiff := @decide_subject_iff t ht.wellFormed subject hs ⟨catalog, schema, table, some name⟩
    name (Text.nonBlank_some hn)
  refine ⟨hiff, ?_⟩
  rw [← hiff, Sieve.decide_subject hs (Text.nonBlank_some hn)]
  exact ok_excluded_iff

/-- Two catalogs of one name; in the second stands a catalog, where none may, with a rule against
what the first includes. -/
def twinCatalogs : RuleTree :=
  ((((empty.edited (.attach 0 (.catalog (some "SALES")))).edited
    (.attach 1 (.includeTable "A|B"))).edited
    (.attach 0 (.catalog (some "SALES")))).edited
    (.attach 3 (.catalog (some "INNER")))).edited
    (.attach 4 (.excludeTable "A"))

theorem twinCatalogs_reachable : twinCatalogs.Reachable :=
  .edited (.edited (.edited (.edited (.edited .empty _) _) _) _) _

theorem decide_iff_passesIn_twinCatalogs :
    twinCatalogs.Reachable ∧ RuleSubject.table ≠ .column ∧ Text.isBlank "A" = false ∧
      ∃ catalogKey schemaKey,
        twinCatalogs.Scoped (some "SALES") none catalogKey schemaKey ∧
          twinCatalogs.PassesIn catalogKey schemaKey .table "A" :=
  have hs : RuleSubject.table ≠ .column := by decide
  have hn : Text.isBlank "A" = false := by decide
  ⟨twinCatalogs_reachable, hs, hn,
    (twinCatalogs_reachable.decide_iff_passesIn hs (some "SALES") none none hn).1.1
      (by decide +kernel)⟩

/-- A column is included exactly if the names of its catalog and its schema are looked up under
keys, and its own name passes the column rules for its table under these: those below the first
include that overrides the columns of the table, else those in all containers that apply. Otherwise
it is excluded. -/
theorem Reachable.decide_iff_passesColumn (ht : t.Reachable) (catalog schema : Option String)
    {table name : String} (htable : Text.isBlank table = false)
    (hn : Text.isBlank name = false) :
    (t.compile.sieve.decide ⟨catalog, schema, some table, some name⟩ .column = .ok .included ↔
      ∃ catalogKey schemaKey,
        t.Scoped (Text.nonBlank catalog) (Text.nonBlank schema) catalogKey schemaKey ∧
          match (t.tableIncludes catalogKey schemaKey).find? (t.overrides table) with
          | some i =>
            Passes (t.HasRule i.1 .column .includes) (t.HasRule i.1 .column .excludes) name
          | none => t.PassesIn catalogKey schemaKey .column name) ∧
    (t.compile.sieve.decide ⟨catalog, schema, some table, some name⟩ .column = .ok .excluded ↔
      ¬ t.compile.sieve.decide ⟨catalog, schema, some table, some name⟩ .column
        = .ok .included) := by
  have hiff := @decide_column_iff t ht.wellFormed ⟨catalog, schema, some table, some name⟩
    table name (Text.nonBlank_some hn) (Text.nonBlank_some htable)
  simp only [PassesColumn] at hiff
  refine ⟨hiff, ?_⟩
  have hdecide := @Sieve.decide_column t.compile.sieve ⟨catalog, schema, some table, some name⟩
    table name (Text.nonBlank_some hn) (Text.nonBlank_some htable)
  rw [hdecide]
  exact ok_excluded_iff

/-- An include in a catalog has only a blank column rule and so overrides nothing. The first one at
the root that matches does, and the rule against every column which stands beside it has no say. -/
def outerOverride : RuleTree :=
  ((((((empty.edited (.attach 0 (.catalog (some "SALES")))).edited
    (.attach 1 (.includeTable "T"))).edited
    (.attach 2 (.includeColumn " "))).edited
    (.attach 0 (.excludeColumn ".*"))).edited
    (.attach 0 (.includeTable "T|U"))).edited
    (.attach 5 (.includeColumn "K")))

theorem outerOverride_reachable : outerOverride.Reachable :=
  .edited (.edited (.edited (.edited (.edited (.edited .empty _) _) _) _) _) _

theorem decide_iff_passesColumn_outerOverride :
    outerOverride.Reachable ∧ Text.isBlank "T" = false ∧ Text.isBlank "K" = false ∧
      ∃ catalogKey schemaKey,
        outerOverride.Scoped (Text.nonBlank (some "SALES")) (Text.nonBlank none)
            catalogKey schemaKey ∧
          match (outerOverride.tableIncludes catalogKey schemaKey).find?
              (outerOverride.overrides "T") with
          | some i =>
            Passes (outerOverride.HasRule i.1 .column .includes)
              (outerOverride.HasRule i.1 .column .excludes) "K"
          | none => outerOverride.PassesIn catalogKey schemaKey .column "K" :=
  have htable : Text.isBlank "T" = false := by decide
  have hn : Text.isBlank "K" = false := by decide
  ⟨outerOverride_reachable, htable, hn,
    (outerOverride_reachable.decide_iff_passesColumn (some "SALES") none htable hn).1.1
      (by decide +kernel)⟩

end RuleTree

end SchemaSieve
