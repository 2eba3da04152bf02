import Mathlib.Tactic
import SchemaSieve.Proofs.Collecting
import SchemaSieve.Rule.Document

/-!
# Ordered unions

Filters are merged in one way: what the first one holds stays in front, and what is new comes behind
in its order. Merging is associative, so it makes no difference that rules of one name are collected
before they are merged with those around them (`Sieve.ofBranch_eq`), and of filters in which no
pattern stands twice it makes such filters again. Includes of tables alone are put in a row with
their repetitions, as each may bring its own columns. All filters of a compiled sieve come about in
this way (`FilterSet.merge_laws`).
-/

namespace SchemaSieve

/-! ## Lists -/

section

variable {α : Type} [DecidableEq α] {xs ys : List α}

/-- Of values that differ, those that are new come behind, in their order. -/
theorem mergeNew_eq_append (hys : ys.Nodup) (xs : List α) :
    mergeNew xs ys = xs ++ ys.filter (· ∉ xs) := by
  induction ys generalizing xs with
  | nil => simp [mergeNew]
  | cons y ys ih =>
    obtain ⟨hy, hrest⟩ := List.nodup_cons.1 hys
    rw [mergeNew, List.foldl_cons, ← mergeNew, ih hrest]
    by_cases hmem : y ∈ xs
    · rw [addNew, if_pos hmem, List.filter_cons_of_neg (by simpa using hmem)]
    · have hnew : (ys.filter (· ∉ xs ++ [y])) = ys.filter (· ∉ xs) := by
        refine List.filter_congr fun z hz => ?_
        have hne : z ≠ y := fun h => hy (h ▸ hz)
        simp [hne]
      rw [addNew, if_neg hmem, hnew, List.filter_cons_of_pos (by simpa using hmem),
        List.append_assoc, List.singleton_append]

theorem mergeNew_nil_of_nodup (hxs : xs.Nodup) : mergeNew [] xs = xs := by
  rw [mergeNew_eq_append hxs, List.nil_append, List.filter_eq_self]
  simp

theorem mergeNew_self (hxs : xs.Nodup) : mergeNew xs xs = xs := by
  have hnone : xs.filter (· ∉ xs) = [] := List.filter_eq_nil_iff.2 (by simp)
  rw [mergeNew_eq_append hxs, hnone, List.append_nil]

end

/-- Patterns differ exactly if their sources do. -/
theorem NamePattern.nodup_map_source_iff {ps : List NamePattern} :
    (ps.map (·.source)).Nodup ↔ ps.Nodup :=
  List.nodup_map_iff fun _ _ => eq_of_source_eq

/-! ## Name filters -/

namespace NameFilter

variable {f g : NameFilter}

theorem eq_of_side (h : ∀ polarity, f.side polarity = g.side polarity) : f = g := by
  obtain ⟨fi, fe⟩ := f
  obtain ⟨gi, ge⟩ := g
  obtain rfl : fi = gi := h .includes
  obtain rfl : fe = ge := h .excludes
  rfl

theorem side_add (f : NameFilter) (p q : Polarity) (pattern : NamePattern) :
    (f.add p pattern).side q = if q = p then addNew (f.side q) pattern else f.side q := by
  cases p <;> cases q <;> rfl

theorem side_merge (f g : NameFilter) (q : Polarity) :
    (f.merge g).side q = mergeNew (f.side q) (g.side q) := by
  cases q <;> rfl

theorem side_foldl_add (p q : Polarity) (ps : List NamePattern) (f : NameFilter) :
    (ps.foldl (·.add p ·) f).side q = if q = p then mergeNew (f.side q) ps else f.side q := by
  induction ps generalizing f with
  | nil => exact (ite_self _).symm
  | cons pattern ps ih =>
    rw [List.foldl_cons, ih, side_add]
    split_ifs <;> rfl

/-- Merging adds the patterns of the second filter one by one. -/
theorem merge_eq_foldl_add (f g : NameFilter) :
    f.merge g = g.excludes.foldl (·.add .excludes ·) (g.includes.foldl (·.add .includes ·) f) := by
  refine eq_of_side fun q => ?_
  rw [side_foldl_add, side_foldl_add, side_merge]
  cases q <;> rfl

theorem merge_assoc (f g h : NameFilter) : (f.merge g).merge h = f.merge (g.merge h) :=
  eq_of_side fun q => by simp only [side_merge, mergeNew_assoc]

/-- Whether no pattern stands twice on one side of a filter. -/
structure Distinct (f : NameFilter) : Prop where
  includes : (f.includes.map (·.source)).Nodup
  excludes : (f.excludes.map (·.source)).Nodup

theorem distinct_iff : f.Distinct ↔ ∀ q, (f.side q).Nodup := by
  constructor
  · rintro ⟨hi, he⟩ (_ | _)
    · exact NamePattern.nodup_map_source_iff.1 hi
    · exact NamePattern.nodup_map_source_iff.1 he
  · intro h
    exact ⟨NamePattern.nodup_map_source_iff.2 (h .includes),
      NamePattern.nodup_map_source_iff.2 (h .excludes)⟩

theorem distinct_empty : empty.Distinct := ⟨List.nodup_nil, List.nodup_nil⟩

namespace Distinct

theorem merge (hf : f.Distinct) (g : NameFilter) : (f.merge g).Distinct := by
  refine distinct_iff.2 fun q => ?_
  rw [side_merge]
  exact nodup_mergeNew (distinct_iff.1 hf q) _

theorem empty_merge (hf : f.Distinct) : empty.merge f = f := by
  refine eq_of_side fun q => ?_
  rw [side_merge, show empty.side q = [] by cases q <;> rfl]
  exact mergeNew_nil_of_nodup (distinct_iff.1 hf q)

theorem merge_self (hf : f.Distinct) : f.merge f = f := by
  refine eq_of_side fun q => ?_
  rw [side_merge]
  exact mergeNew_self (distinct_iff.1 hf q)

theorem side_merge_eq_append (hg : g.Distinct) (f : NameFilter) (q : Polarity) :
    (f.merge g).side q = f.side q ++ (g.side q).filter (· ∉ f.side q) := by
  rw [side_merge]
  exact mergeNew_eq_append (distinct_iff.1 hg q) _

end Distinct

theorem accepts_merge_iff (f g : NameFilter) (name : String) :
    (f.merge g).accepts name = true ↔
      ((f.includes = [] ∧ g.includes = []) ∨ (∃ p ∈ f.includes, p.accepts name = true) ∨
        ∃ p ∈ g.includes, p.accepts name = true) ∧
      (∀ p ∈ f.excludes, p.accepts name = false) ∧ ∀ p ∈ g.excludes, p.accepts name = false := by
  have hincludes : ∀ p, p ∈ (f.merge g).includes ↔ p ∈ f.includes ∨ p ∈ g.includes :=
    fun _ => mem_mergeNew
  have hexcludes : ∀ p, p ∈ (f.merge g).excludes ↔ p ∈ f.excludes ∨ p ∈ g.excludes :=
    fun _ => mem_mergeNew
  rw [accepts_iff_passes, Passes]
  simp only [side, hincludes, hexcludes, not_or, forall_and, or_and_right, exists_or, or_imp,
    List.eq_nil_iff_forall_not_mem]

/-- Merging three filters in which no pattern stands twice. -/
structure MergeLaws (f g h : NameFilter) : Prop where
  assoc : (f.merge g).merge h = f.merge (g.merge h)
  empty_merge : empty.merge f = f
  merge_empty : f.merge empty = f
  merge_self : f.merge f = f
  distinct : (f.merge g).Distinct
  includes : (f.merge g).includes = f.includes ++ g.includes.filter (· ∉ f.includes)
  excludes : (f.merge g).excludes = f.excludes ++ g.excludes.filter (· ∉ f.excludes)
  added : f.merge g
    = g.excludes.foldl (·.add .excludes ·) (g.includes.foldl (·.add .includes ·) f)
  accepts : ∀ name, (f.merge g).accepts name = true ↔
    ((f.includes = [] ∧ g.includes = []) ∨ (∃ p ∈ f.includes, p.accepts name = true) ∨
      ∃ p ∈ g.includes, p.accepts name = true) ∧
    (∀ p ∈ f.excludes, p.accepts name = false) ∧ ∀ p ∈ g.excludes, p.accepts name = false

end NameFilter

/-! ## Filter sets -/

namespace TableFilter

/-- Merging adds what the second filter holds one by one, and merges the columns. -/
theorem merge_eq_foldl_add (f g : TableFilter) :
    f.merge g = (g.excludes.foldl addExclude (g.includes.foldl addInclude f)).mergeColumns
      g.columns := by
  have hincludes : ∀ (is : List TableInclude) (f : TableFilter),
      is.foldl addInclude f = { f with includes := f.includes ++ is } := by
    intro is
    induction is with
    | nil => intro f; simp
    | cons i is ih => intro f; simp [ih, addInclude]
  have hexcludes : ∀ (ps : List NamePattern) (f : TableFilter),
      ps.foldl addExclude f = { f with excludes := mergeNew f.excludes ps } := by
    intro ps
    induction ps with
    | nil => exact fun _ => rfl
    | cons p ps ih => exact fun f => ih (f.addExclude p)
  rw [hincludes, hexcludes]
  rfl

end TableFilter

namespace FilterSet

variable {a b : FilterSet}

/-- Whether no pattern stands twice in one of the filters of a set; includes of tables may share a
pattern. -/
structure Distinct (s : FilterSet) : Prop where
  excludes : (s.tables.excludes.map (·.source)).Nodup
  columns : s.tables.columns.Distinct
  overrides : ∀ i ∈ s.tables.includes, ∀ f, i.columns = some f → f.Distinct
  procedures : s.procedures.Distinct

theorem distinct_empty : empty.Distinct :=
  ⟨List.nodup_nil, NameFilter.distinct_empty, by simp [empty], NameFilter.distinct_empty⟩

namespace Distinct

theorem merge (ha : a.Distinct) (hb : b.Distinct) : (a.merge b).Distinct where
  excludes := NamePattern.nodup_map_source_iff.2
    (nodup_mergeNew (NamePattern.nodup_map_source_iff.1 ha.excludes) _)
  columns := ha.columns.merge _
  overrides i hi := by
    rcases List.mem_append.1 hi with hi | hi
    · exact ha.overrides i hi
    · exact hb.overrides i hi
  procedures := ha.procedures.merge _

theorem nodup_patterns (ha : a.Distinct) {subject : RuleSubject} {polarity : Polarity}
    (h : ¬ (subject = .table ∧ polarity = .includes)) : (a.patterns subject polarity).Nodup := by
  cases subject with
  | table =>
    cases polarity with
    | includes => exact absurd ⟨rfl, rfl⟩ h
    | excludes => exact NamePattern.nodup_map_source_iff.1 ha.excludes
  | column => exact NameFilter.distinct_iff.1 ha.columns polarity
  | procedure => exact NameFilter.distinct_iff.1 ha.procedures polarity

theorem empty_merge (ha : a.Distinct) : empty.merge a = a := by
  refine eq_of_patterns (List.nil_append _) fun subject polarity h => ?_
  have hempty : empty.patterns subject polarity = [] :=
    List.eq_nil_iff_forall_not_mem.2 fun _ => mem_patterns_empty
  rw [patterns_merge h, hempty, mergeNew_nil_of_nodup (ha.nodup_patterns h)]

theorem mergeAll {sets : List FilterSet} (h : ∀ s ∈ sets, s.Distinct) :
    (mergeAll sets).Distinct :=
  List.foldlRecOn sets FilterSet.merge distinct_empty fun _ ha b hb => ha.merge (h b hb)

end Distinct

/-- Merging three sets in which no filter holds a pattern twice. -/
structure MergeLaws (a b c : FilterSet) : Prop where
  assoc : (a.merge b).merge c = a.merge (b.merge c)
  empty_merge : empty.merge a = a
  merge_empty : a.merge empty = a
  distinct : (a.merge b).Distinct
  tableIncludes : (a.merge b).tables.includes = a.tables.includes ++ b.tables.includes
  tableExcludes : (a.merge b).tables.excludes
    = a.tables.excludes ++ b.tables.excludes.filter (· ∉ a.tables.excludes)
  columns : (a.merge b).tables.columns = a.tables.columns.merge b.tables.columns
  procedures : (a.merge b).procedures = a.procedures.merge b.procedures
  added : (a.merge b).tables = ((b.tables.excludes.foldl TableFilter.addExclude
    (b.tables.includes.foldl TableFilter.addInclude a.tables)).mergeColumns b.tables.columns)

/-! ## Compiled filters -/

theorem distinct_ofNode (node : RuleNode) : (ofNode node).Distinct := by
  rcases node with _ | _ | _ | ⟨subject, polarity, source⟩
  · exact distinct_empty
  · exact distinct_empty
  · exact distinct_empty
  · rw [ofNode]
    rcases validPattern? source with _ | p
    · exact distinct_empty
    · have hone : (NameFilter.empty.add polarity p).Distinct := by
        cases polarity
        · exact ⟨List.nodup_singleton _, List.nodup_nil⟩
        · exact ⟨List.nodup_nil, List.nodup_singleton _⟩
      cases subject with
      | table =>
        cases polarity
        · exact ⟨List.nodup_nil, NameFilter.distinct_empty, by simp [ofRule],
            NameFilter.distinct_empty⟩
        · exact ⟨List.nodup_singleton _, NameFilter.distinct_empty, by simp [ofRule],
            NameFilter.distinct_empty⟩
      | column => exact ⟨List.nodup_nil, hone, by simp [ofRule], NameFilter.distinct_empty⟩
      | procedure => exact ⟨List.nodup_nil, NameFilter.distinct_empty, by simp [ofRule], hone⟩

/-- The columns that an include of tables brings are merged too. -/
theorem distinct_overrideOf {b : Branch RuleNode} {f : NameFilter} (h : overrideOf b = some f) :
    f.Distinct := by
  simp only [overrideOf] at h
  split_ifs at h
  obtain rfl := Option.some.inj h
  refine (Distinct.mergeAll fun s hs => ?_).columns
  obtain ⟨c, -, rfl⟩ := List.mem_map.1 hs
  exact distinct_ofNode c.value

theorem distinct_ofBranch (b : Branch RuleNode) : (ofBranch b).Distinct := by
  unfold ofBranch
  split
  · rename_i source _
    rcases validPattern? source with _ | p
    · exact distinct_empty
    · refine ⟨List.nodup_nil, NameFilter.distinct_empty, fun i hi f hf => ?_,
        NameFilter.distinct_empty⟩
      obtain rfl := List.mem_singleton.1 hi
      exact distinct_overrideOf hf
  · exact distinct_ofNode b.value

theorem distinct_inside (b : Branch RuleNode) : (inside b).Distinct := by
  refine Distinct.mergeAll fun s hs => ?_
  obtain ⟨c, -, rfl⟩ := List.mem_map.1 hs
  exact distinct_ofBranch c

end FilterSet

theorem distinct_of_mem_declaredSchemas {b : Branch RuleNode} {s : SchemaEntry}
    (hs : s ∈ declaredSchemas b) : s.filters.Distinct := by
  obtain ⟨c, -, hc⟩ := List.mem_filterMap.1 hs
  split at hc
  · obtain rfl := Option.some.inj hc
    exact FilterSet.distinct_inside c
  · cases hc

theorem distinct_of_mem_declaredCatalogs {b : Branch RuleNode} {d : CatalogDeclaration}
    (hd : d ∈ declaredCatalogs b) :
    d.filters.Distinct ∧ ∀ s ∈ d.schemas, s.filters.Distinct := by
  obtain ⟨c, -, hc⟩ := List.mem_filterMap.1 hd
  split at hc
  · obtain rfl := Option.some.inj hc
    exact ⟨FilterSet.distinct_inside c, fun s hs => distinct_of_mem_declaredSchemas hs⟩
  · cases hc

/-- Whether no filter of a sieve holds a pattern twice. -/
def Sieve.Distinct (s : Sieve) : Prop :=
  ∀ c ∈ s.catalogs, ∀ e ∈ c.schemas, e.filters.Distinct

theorem Sieve.distinct_ofBranch (b : Branch RuleNode) : (Sieve.ofBranch b).Distinct := by
  rw [ofBranch_eq]
  intro c hc e he
  obtain ⟨name, -, rfl⟩ := List.mem_map.1 hc
  obtain ⟨schemaName, -, rfl⟩ := List.mem_map.1 he
  refine FilterSet.Distinct.mergeAll fun s hs => ?_
  -- The parts are those of schemas in the catalogs or at the root, of the catalogs, and of the root.
  simp only [List.mem_append, List.mem_map, List.mem_filter, List.mem_flatMap,
    List.mem_singleton] at hs
  rcases hs with (⟨e, ⟨⟨d, ⟨hd, -⟩, he⟩ | he, -⟩, rfl⟩ | ⟨d, ⟨hd, -⟩, rfl⟩) | rfl
  · exact (distinct_of_mem_declaredCatalogs hd).2 e he
  · exact distinct_of_mem_declaredSchemas he
  · exact (distinct_of_mem_declaredCatalogs hd).1
  · exact FilterSet.distinct_inside b

/-- How filters are merged, by themselves and in sets; and no filter of a compiled sieve holds a
pattern twice. -/
theorem FilterSet.merge_laws {f g : NameFilter} (hf : f.Distinct) (hg : g.Distinct) (h : NameFilter)
    {a b : FilterSet} (ha : a.Distinct) (hb : b.Distinct) (c : FilterSet) (t : RuleTree) :
    f.MergeLaws g h ∧ a.MergeLaws b c ∧ t.compile.sieve.Distinct := by
  refine ⟨?_, ?_, Sieve.distinct_ofBranch t.branch⟩
  · exact {
      assoc := f.merge_assoc g h
      empty_merge := hf.empty_merge
      merge_empty := rfl
      merge_self := hf.merge_self
      distinct := hf.merge g
      includes := hg.side_merge_eq_append f .includes
      excludes := hg.side_merge_eq_append f .excludes
      added := f.merge_eq_foldl_add g
      accepts := f.accepts_merge_iff g }
  · exact {
      assoc := a.merge_assoc b c
      empty_merge := ha.empty_merge
      merge_empty := a.merge_empty
      distinct := ha.merge hb
      tableIncludes := rfl
      tableExcludes := mergeNew_eq_append (NamePattern.nodup_map_source_iff.1 hb.excludes) _
      columns := rfl
      procedures := rfl
      added := a.tables.merge_eq_foldl_add b.tables }

/-- The valid ones of some patterns. -/
def validPatterns (sources : List String) : List NamePattern := sources.filterMap validPattern?

/-- Two filters that share patterns on both sides. -/
def ordersFilter : NameFilter := ⟨validPatterns ["ORDERS", "ITEMS"], validPatterns ["TMP_.*"]⟩

def itemsFilter : NameFilter :=
  ⟨validPatterns ["ITEMS", "PRICES", "ORDERS"], validPatterns ["OLD", "TMP_.*"]⟩

/-- Two sets that include the same tables, one with columns. -/
def ordersSet : FilterSet where
  tables := ⟨(validPatterns ["ORDERS"]).map (⟨·, none⟩), validPatterns ["TMP_.*"], ordersFilter⟩
  procedures := itemsFilter

def itemsSet : FilterSet where
  tables := ⟨(validPatterns ["ORDERS"]).map (⟨·, some itemsFilter⟩),
    validPatterns ["OLD", "TMP_.*"], itemsFilter⟩
  procedures := ordersFilter

/-- A catalog that is declared twice and excludes a table both times. -/
def salesDeclaredTwice : RuleTree := .ofDocument
  { catalogs := [{ name := some "SALES", rules := { excludeTables := ["TMP_.*", "TMP_.*"] } },
      { name := some "SALES", rules := { excludeTables := ["OLD", "TMP_.*"] } }] }

theorem ordersFilter_distinct : ordersFilter.Distinct := ⟨by decide +kernel, by decide +kernel⟩

theorem itemsFilter_distinct : itemsFilter.Distinct := ⟨by decide +kernel, by decide +kernel⟩

theorem ordersSet_distinct : ordersSet.Distinct :=
  ⟨by decide +kernel, ordersFilter_distinct, by simp [ordersSet], itemsFilter_distinct⟩

theorem itemsSet_distinct : itemsSet.Distinct := by
  refine ⟨by decide +kernel, itemsFilter_distinct, fun i hi f hf => ?_, ordersFilter_distinct⟩
  obtain ⟨p, -, rfl⟩ := List.mem_map.1 hi
  obtain rfl := Option.some.inj hf
  exact itemsFilter_distinct

/-- The order is that of the first occurrence, and the include that is repeated stays. -/
theorem FilterSet.merge_laws_ordersAndItems :
    (ordersFilter.Distinct ∧ itemsFilter.Distinct ∧ ordersSet.Distinct ∧ itemsSet.Distinct) ∧
      (ordersFilter.MergeLaws itemsFilter ordersFilter ∧ ordersSet.MergeLaws itemsSet ordersSet ∧
        salesDeclaredTwice.compile.sieve.Distinct) ∧
      (ordersFilter.merge itemsFilter).includes.map (·.source) = ["ORDERS", "ITEMS", "PRICES"] ∧
      (ordersSet.merge itemsSet).tables.includes.map (·.pattern.source) = ["ORDERS", "ORDERS"] ∧
      (salesDeclaredTwice.compile.sieve.catalogs.flatMap (·.schemas)).map
        (·.filters.tables.excludes.map (·.source)) = [["TMP_.*", "OLD"]] := by
  refine ⟨⟨ordersFilter_distinct, itemsFilter_distinct, ordersSet_distinct, itemsSet_distinct⟩,
    ?_, by decide +kernel, by decide +kernel, by decide +kernel⟩
  exact merge_laws ordersFilter_distinct itemsFilter_distinct ordersFilter ordersSet_distinct
    itemsSet_distinct ordersSet salesDeclaredTwice

end SchemaSieve
