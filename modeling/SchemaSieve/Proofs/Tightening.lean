import Mathlib.Tactic
import SchemaSieve.Proofs.Links
import SchemaSieve.Proofs.NewRules

/-!
# Which way a new rule shifts decisions

The rules by which an object is decided are those in the containers that apply to it, or for a
column those below the include that overrides the columns of its table (`Governs`). A rule that is
planted in a container joins the rules of its own subject in the scopes of that container, and no
others (`governs_plant`). So a rule that excludes only ever takes objects out, and a rule that
includes only ever lets objects in, where a rule that includes stood already
(`Reachable.attach_shifts`).
-/

namespace SchemaSieve

namespace RuleTree

variable {t : RuleTree} {catalogKey schemaKey : Option String} {place : Nat}
  {subject : RuleSubject} {polarity : Polarity} {source : String}

/-! ## Rules that decide -/

/-- The include that overrides what the containers say about columns, if a table has one. -/
def overriding? (t : RuleTree) (catalogKey schemaKey : Option String) :
    RuleSubject → Option String → Option (Nat × NamePattern)
  | .column, some table => (t.tableIncludes catalogKey schemaKey).find? (t.overrides table)
  | _, _ => none

/-- The rules by which an object is decided under a pair of keys: those below the include that
overrides the columns of its table, if it is a column and there is one, else those in all containers
that apply. -/
def Governs (t : RuleTree) (catalogKey schemaKey : Option String) (subject : RuleSubject)
    (table : Option String) (polarity : Polarity) (p : NamePattern) : Prop :=
  match t.overriding? catalogKey schemaKey subject table with
  | some i => t.HasRule i.1 subject polarity p
  | none => ∃ id, t.Applies catalogKey schemaKey id ∧ t.HasRule id subject polarity p

theorem governs_of_overriding {table : Option String} {i : Nat × NamePattern}
    (h : t.overriding? catalogKey schemaKey subject table = some i) {p : NamePattern} :
    t.Governs catalogKey schemaKey subject table polarity p ↔ t.HasRule i.1 subject polarity p := by
  rw [Governs, h]

theorem governs_of_not_overriding {table : Option String}
    (h : t.overriding? catalogKey schemaKey subject table = none) {p : NamePattern} :
    t.Governs catalogKey schemaKey subject table polarity p ↔
      ∃ id, t.Applies catalogKey schemaKey id ∧ t.HasRule id subject polarity p := by
  rw [Governs, h]

theorem passes_governs_column {table name : String} :
    Passes (t.Governs catalogKey schemaKey .column (some table) .includes)
        (t.Governs catalogKey schemaKey .column (some table) .excludes) name ↔
      t.PassesColumn catalogKey schemaKey table name := by
  have heq : t.overriding? catalogKey schemaKey .column (some table)
      = (t.tableIncludes catalogKey schemaKey).find? (t.overrides table) := rfl
  rw [PassesColumn, ← heq]
  rcases hover : t.overriding? catalogKey schemaKey .column (some table) with _ | i
  · exact Passes.congr (fun _ => governs_of_not_overriding hover)
      fun _ => governs_of_not_overriding hover
  · exact Passes.congr (fun _ => governs_of_overriding hover) fun _ => governs_of_overriding hover

theorem passes_governs_subject (hs : subject ≠ .column) {table : Option String} {name : String} :
    Passes (t.Governs catalogKey schemaKey subject table .includes)
        (t.Governs catalogKey schemaKey subject table .excludes) name ↔
      t.PassesIn catalogKey schemaKey subject name := by
  have hover : t.overriding? catalogKey schemaKey subject table = none := by
    cases subject <;> first | rfl | exact absurd rfl hs
  exact Passes.congr (fun _ => governs_of_not_overriding hover)
    fun _ => governs_of_not_overriding hover

/-- An object is included exactly if it has a name, and if it is a column its table has one, and
its name passes the rules by which it is decided. -/
theorem decide_iff_governed (ht : t.WellFormed) {path : ObjectPath} :
    t.compile.sieve.decide path subject.kind = .ok .included ↔
      ∃ name, Text.nonBlank path.name = some name ∧
        (subject = .column → ∃ table, Text.nonBlank path.table = some table) ∧
          ∃ catalogKey schemaKey,
            t.Scoped (Text.nonBlank path.catalog) (Text.nonBlank path.schema) catalogKey schemaKey ∧
              Passes (t.Governs catalogKey schemaKey subject (Text.nonBlank path.table) .includes)
                (t.Governs catalogKey schemaKey subject (Text.nonBlank path.table) .excludes)
                name := by
  rcases hname : Text.nonBlank path.name with _ | name
  · simp [Sieve.decide, hname]
  simp only [Option.some.injEq, exists_eq_left']
  by_cases hs : subject = .column
  · subst hs
    rcases htable : Text.nonBlank path.table with _ | table
    · simp [Sieve.decide, hname, htable, RuleSubject.kind]
    · rw [show RuleSubject.column.kind = .column from rfl, decide_column_iff ht hname htable]
      simp [passes_governs_column]
  · have hdecide := decide_subject_iff ht hs hname
    simpa [passes_governs_subject hs, hs] using hdecide

/-! ## Planting a rule in a container -/

theorem mem_of_overriding?_eq_some {table : Option String} {i : Nat × NamePattern}
    (h : t.overriding? catalogKey schemaKey subject table = some i) :
    i ∈ t.tableIncludes catalogKey schemaKey := by
  unfold overriding? at h
  split at h
  · exact List.mem_of_find?_eq_some h
  · cases h

theorem ne_of_mem_tableIncludes (ht : t.WellFormed) {holder : RuleNode}
    (hnode : t.node? place = some holder)
    (hcontainer : holder.isContainer = true) {i : Nat × NamePattern}
    (hi : i ∈ t.tableIncludes catalogKey schemaKey) : i.1 ≠ place := by
  rintro rfl
  obtain ⟨pattern, hinclude⟩ := node?_of_mem_tableIncludes ht hi
  obtain rfl := Option.some.inj (hnode.symm.trans hinclude)
  cases hcontainer

section

variable (ht : t.WellFormed) {holder : RuleNode} (hnode : t.node? place = some holder)
  (hcontainer : holder.isContainer = true)

include ht hnode hcontainer

/-- Rules in a container stand below no include, so they neither make nor change an override. -/
theorem overriding?_plant (s : RuleSubject) (table : Option String) :
    (t.plant place (.rule subject polarity source)).overriding? catalogKey schemaKey s table
      = t.overriding? catalogKey schemaKey s table := by
  have hplace := Forest.contains_of_value? hnode
  rcases s with _ | _ | _
  · rfl
  · rcases table with _ | n
    · rfl
    by_cases hsubject : subject = .column
    · have hincludes : (t.plant place (.rule subject polarity source)).tableIncludes
          catalogKey schemaKey = t.tableIncludes catalogKey schemaKey := by
        rw [tableIncludes, tableIncludes, (sameContainers_plant ht hplace _ _ _).applicable_eq]
        refine List.flatMap_congr fun i _ => ?_
        rw [validRules_plant ht hplace, if_neg (by simp [hsubject]), List.append_nil]
      rw [overriding?, overriding?, hincludes]
      refine List.find?_congr fun i hi => ?_
      have hne := ne_of_mem_tableIncludes ht hnode hcontainer hi
      have hbelow : ∀ q, (t.plant place (.rule subject polarity source)).validRules .column q i.1
          = t.validRules .column q i.1 := by
        intro q
        rw [validRules_plant ht hplace, if_neg fun h => hne h.1.symm, List.append_nil]
      rw [overrides, overrides, hbelow, hbelow]
    · rw [overriding?, overriding?,
        find?_overrides_plant ht hplace hsubject]
  · rfl

/-- A new rule joins the rules of its own subject wherever its container applies and no override
stands in for what the containers say. -/
theorem governs_plant {s : RuleSubject} {table : Option String} {q : Polarity} {r : NamePattern} :
    (t.plant place (.rule subject polarity source)).Governs catalogKey schemaKey s table q r ↔
      t.Governs catalogKey schemaKey s table q r ∨
        s = subject ∧ q = polarity ∧ validPattern? source = some r ∧
          t.Applies catalogKey schemaKey place ∧
            t.overriding? catalogKey schemaKey subject table = none := by
  have hplace := Forest.contains_of_value? hnode
  have hover' : (t.plant place (.rule subject polarity source)).overriding? catalogKey schemaKey
      s table = t.overriding? catalogKey schemaKey s table :=
    overriding?_plant ht hnode hcontainer s table
  rcases hover : t.overriding? catalogKey schemaKey s table with _ | i
  · rw [governs_of_not_overriding (hover'.trans hover), governs_of_not_overriding hover]
    simp only [(sameContainers_plant ht hplace _ _ _).applies_iff ht (ht.plant hplace _),
      hasRule_plant ht hplace, and_or_left, exists_or]
    refine or_congr_right ⟨?_, ?_⟩
    · rintro ⟨_, happ, rfl, rfl, rfl, hv⟩
      exact ⟨rfl, rfl, hv, happ, hover⟩
    · rintro ⟨rfl, rfl, hv, happ, -⟩
      exact ⟨place, happ, rfl, rfl, rfl, hv⟩
  · -- The override stands below an include, which is no container.
    have hne := ne_of_mem_tableIncludes ht hnode hcontainer (mem_of_overriding?_eq_some hover)
    rw [governs_of_overriding (hover'.trans hover), governs_of_overriding hover,
      hasRule_plant ht hplace]
    refine or_congr_right (iff_of_false (fun h => hne h.1) ?_)
    rintro ⟨rfl, -, -, -, hnone⟩
    rw [hover] at hnone
    cases hnone

end

/-! ## Shifts -/

/-- Whether a place applies to what a path leads to. -/
def Reaches (t : RuleTree) (place : Nat) (path : ObjectPath) : Prop :=
  ∃ catalogKey schemaKey,
    t.Scoped (Text.nonBlank path.catalog) (Text.nonBlank path.schema) catalogKey schemaKey ∧
      t.Applies catalogKey schemaKey place

/-- Whether a rule that includes is among those by which the object of a path is decided. -/
def Lists (t : RuleTree) (subject : RuleSubject) (path : ObjectPath) : Prop :=
  ∃ catalogKey schemaKey p,
    t.Scoped (Text.nonBlank path.catalog) (Text.nonBlank path.schema) catalogKey schemaKey ∧
      t.Governs catalogKey schemaKey subject (Text.nonBlank path.table) .includes p

/-- How the decisions of a tree may change by a rule in a place: only about objects of its subject,
only in the scopes of the place, and only the way of its polarity. A rule that includes may take
objects out where it is the first one that does, as all others are let in without one. -/
structure Shifts (t t' : RuleTree) (place : Nat) (subject : RuleSubject) (polarity : Polarity) :
    Prop where
  otherKinds : ∀ path kind, kind ≠ subject.kind →
    t'.compile.sieve.decide path kind = t.compile.sieve.decide path kind
  elsewhere : ∀ path kind, ¬ t.Reaches place path →
    t'.compile.sieve.decide path kind = t.compile.sieve.decide path kind
  excludes : polarity = .excludes → ∀ path kind,
    t.compile.sieve.decide path kind = .ok .excluded →
      t'.compile.sieve.decide path kind = .ok .excluded
  includes : polarity = .includes → ∀ path kind, t.Lists subject path →
    t.compile.sieve.decide path kind = .ok .included →
      t'.compile.sieve.decide path kind = .ok .included

/-- Trees with the same containers decide alike where the same rules decide. -/
theorem SameContainers.decide_eq_of_governs {t' : RuleTree} (h : t.SameContainers t')
    (ht : t.WellFormed) (ht' : t'.WellFormed) {path : ObjectPath} {kind : ObjectKind}
    (hgoverns : ∀ s : RuleSubject, s.kind = kind → ∀ catalogKey schemaKey,
      t.Scoped (Text.nonBlank path.catalog) (Text.nonBlank path.schema) catalogKey schemaKey →
        ∀ q r, t'.Governs catalogKey schemaKey s (Text.nonBlank path.table) q r ↔
          t.Governs catalogKey schemaKey s (Text.nonBlank path.table) q r) :
    t'.compile.sieve.decide path kind = t.compile.sieve.decide path kind := by
  rcases hkind : RuleSubject.ofKind? kind with _ | s
  · have hnone : ∀ s : RuleSubject, s.kind ≠ kind := by
      rintro s rfl
      cases s <;> cases hkind
    exact h.decide_eq ht ht' (fun _ _ _ s _ hs => absurd hs.symm (hnone s))
      fun _ _ _ hs => absurd hs.symm (hnone .column)
  · obtain rfl := RuleSubject.ofKind?_eq_some_iff.1 hkind
    refine Sieve.decide_eq_of_included_iff ?_
    rw [decide_iff_governed ht, decide_iff_governed ht']
    simp only [h.scoped_iff ht ht']
    refine exists_congr fun name => and_congr_right fun _ => and_congr_right fun _ =>
      exists_congr fun catalogKey => exists_congr fun schemaKey => and_congr_right fun hscope => ?_
    exact Passes.congr (hgoverns s rfl _ _ hscope .includes) (hgoverns s rfl _ _ hscope .excludes)

section

variable (ht : t.WellFormed) {holder : RuleNode} (hnode : t.node? place = some holder)
  (hcontainer : holder.isContainer = true)

include ht hnode hcontainer

theorem decide_plant_of_ne {path : ObjectPath} {kind : ObjectKind} (hkind : kind ≠ subject.kind) :
    (t.plant place (.rule subject polarity source)).compile.sieve.decide path kind
      = t.compile.sieve.decide path kind := by
  have hplace := Forest.contains_of_value? hnode
  have ht' := ht.plant hplace (.rule subject polarity source)
  refine (sameContainers_plant ht hplace _ _ _).decide_eq_of_governs ht ht'
    fun s hs catalogKey schemaKey _ q r => ?_
  rw [governs_plant ht hnode hcontainer]
  exact or_iff_left fun h => hkind (hs ▸ congrArg _ h.1)

theorem decide_plant_of_not_reaches {path : ObjectPath} {kind : ObjectKind}
    (hreach : ¬ t.Reaches place path) :
    (t.plant place (.rule subject polarity source)).compile.sieve.decide path kind
      = t.compile.sieve.decide path kind := by
  have hplace := Forest.contains_of_value? hnode
  have ht' := ht.plant hplace (.rule subject polarity source)
  refine (sameContainers_plant ht hplace _ _ _).decide_eq_of_governs ht ht'
    fun s _ catalogKey schemaKey hscope q r => ?_
  rw [governs_plant ht hnode hcontainer]
  exact or_iff_left fun h => hreach ⟨catalogKey, schemaKey, hscope, h.2.2.2.1⟩

/-- What passes one more rule that excludes passes the others, and the rules that include are
those of before. -/
theorem included_of_plant_excludes {path : ObjectPath}
    (h : (t.plant place (.rule subject .excludes source)).compile.sieve.decide path subject.kind
      = .ok .included) :
    t.compile.sieve.decide path subject.kind = .ok .included := by
  have hplace := Forest.contains_of_value? hnode
  have ht' := ht.plant hplace (.rule subject .excludes source)
  rw [decide_iff_governed ht'] at h
  rw [decide_iff_governed ht]
  obtain ⟨name, hname, htable, catalogKey, schemaKey, hscope, hincludes, hexcludes⟩ := h
  rw [(sameContainers_plant ht hplace _ _ _).scoped_iff ht ht'] at hscope
  refine ⟨name, hname, htable, catalogKey, schemaKey, hscope, ?_, fun r hr =>
    hexcludes r ((governs_plant ht hnode hcontainer).2 (.inl hr))⟩
  simpa only [governs_plant ht hnode hcontainer, reduceCtorEq, false_and, and_false, or_false]
    using hincludes

/-- Where a rule that includes stood already, the object passed one, and still does. -/
theorem plant_includes_of_included {path : ObjectPath} (hlists : t.Lists subject path)
    (h : t.compile.sieve.decide path subject.kind = .ok .included) :
    (t.plant place (.rule subject .includes source)).compile.sieve.decide path subject.kind
      = .ok .included := by
  have hplace := Forest.contains_of_value? hnode
  have ht' := ht.plant hplace (.rule subject .includes source)
  obtain ⟨catalogKey, schemaKey, p, hscope, hp⟩ := hlists
  rw [decide_iff_governed ht] at h
  rw [decide_iff_governed ht']
  obtain ⟨name, hname, htable, catalogKey', schemaKey', hscope', hincludes, hexcludes⟩ := h
  obtain rfl := hscope.1.unique hscope'.1
  obtain rfl := hscope.2.unique hscope'.2
  refine ⟨name, hname, htable, catalogKey, schemaKey,
    ((sameContainers_plant ht hplace _ _ _).scoped_iff ht ht').2 hscope, .inr ?_, fun r hr => ?_⟩
  · obtain ⟨r, hr, haccepts⟩ := hincludes.resolve_left fun hnone => hnone p hp
    exact ⟨r, (governs_plant ht hnode hcontainer).2 (.inl hr), haccepts⟩
  · rw [governs_plant ht hnode hcontainer] at hr
    exact hexcludes r (hr.resolve_right fun h => by cases h.2.1)

/-- A rule in a container shifts decisions its own way, if at all. -/
theorem shifts_plant (subject : RuleSubject) (polarity : Polarity) (source : String) :
    t.Shifts (t.plant place (.rule subject polarity source)) place subject polarity := by
  refine ⟨fun path kind hkind => decide_plant_of_ne ht hnode hcontainer hkind,
    fun path kind hreach => decide_plant_of_not_reaches ht hnode hcontainer hreach, ?_, ?_⟩
  · rintro rfl path kind hout
    by_cases hkind : kind = subject.kind
    swap
    · rw [decide_plant_of_ne ht hnode hcontainer hkind, hout]
    subst hkind
    have hnot : ¬ t.compile.sieve.decide path subject.kind = .ok .included := by
      rw [hout]
      simp
    exact (Sieve.decide_eq_of_included_iff (iff_of_false
      (fun h => hnot (included_of_plant_excludes ht hnode hcontainer h)) hnot)).trans hout
  · rintro rfl path kind hlists hin
    by_cases hkind : kind = subject.kind
    swap
    · rw [decide_plant_of_ne ht hnode hcontainer hkind, hin]
    subst hkind
    exact plant_includes_of_included ht hnode hcontainer hlists hin

end

/-- Attaching a rule to a container succeeds and shifts decisions its own way, if at all. -/
theorem Reachable.attach_shifts (ht : t.Reachable) {holder : RuleNode}
    (hnode : t.node? place = some holder) (hcontainer : holder.isContainer = true)
    (subject : RuleSubject) (polarity : Polarity) (source : String) :
    ∃ id t', t.attach place (.rule subject polarity source) = .ok (id, t') ∧
      t.Shifts t' place subject polarity :=
  ⟨_, _, if_pos (Forest.contains_of_value? hnode),
    shifts_plant ht.wellFormed hnode hcontainer subject polarity source⟩

/-- A catalog whose includes list two tables; one of them brings a column rule, and there is one at
the root for the others. -/
def listedSales : RuleTree :=
  empty.run [.attach 0 (.catalog (some "SALES")), .attach 1 (.includeTable "A"),
    .attach 2 (.includeColumn "K"), .attach 1 (.includeTable "B"), .attach 0 (.includeColumn "ID")]

/-- One more include in the catalog: the tables listed there stay in, and so do the columns. -/
theorem attach_shifts_listedSales :
    listedSales.Reachable ∧ listedSales.node? 1 = some (.catalog (some "SALES")) ∧
      ∃ id t', listedSales.attach 1 (.includeTable "C") = .ok (id, t') ∧
        listedSales.Shifts t' 1 .table .includes ∧
          t'.compile.sieve.decide ⟨some "SALES", none, none, some "B"⟩ .table = .ok .included ∧
          t'.compile.sieve.decide ⟨some "SALES", none, some "C", some "ID"⟩ .column
            = .ok .included := by
  have ht : listedSales.Reachable := reachable_run .empty _
  have hnode : listedSales.node? 1 = some (.catalog (some "SALES")) := by decide +kernel
  obtain ⟨id, t', hattach, hshifts⟩ :=
    ht.attach_shifts hnode (by decide) .table .includes "C"
  have hcatalog : listedSales.LegalCatalog (some "SALES") 1 :=
    (mem_catalogs ht.wellFormed).1 (by decide +kernel)
  have hschemas : ∀ n, ¬ ∃ id, listedSales.LegalSchema (some "SALES") (some n) id := by
    rintro n ⟨id, hschema⟩
    have hnone : listedSales.candidates (some "SALES") = [] := by decide +kernel
    rw [← mem_candidates ht.wellFormed, hnone] at hschema
    cases hschema
  obtain ⟨p, hrule⟩ : ∃ p, listedSales.HasRule 1 .table .includes p := by
    have hsome : (listedSales.validRules .table .includes 1).head?.isSome = true := by
      decide +kernel
    obtain ⟨⟨i, p⟩, hi⟩ := Option.isSome_iff_exists.1 hsome
    exact ⟨p, (hasRule_iff ht.wellFormed).2 ⟨i, List.mem_of_head? hi⟩⟩
  have hlists : listedSales.Lists .table ⟨some "SALES", none, none, some "B"⟩ :=
    ⟨some "SALES", none, p,
      ⟨.named ⟨1, hcatalog⟩, .wildcard (fun n _ => hschemas n) (.inl hschemas)⟩,
      (governs_of_not_overriding rfl).2 ⟨1, .inr (.inl hcatalog), hrule⟩⟩
  refine ⟨ht, hnode, id, t', hattach, hshifts,
    hshifts.includes rfl _ .table hlists (by decide +kernel), ?_⟩
  rw [hshifts.otherKinds _ .column (by decide)]
  decide +kernel

end RuleTree

end SchemaSieve
