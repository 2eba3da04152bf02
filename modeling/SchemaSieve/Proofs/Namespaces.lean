import Mathlib.Tactic
import SchemaSieve.Proofs.Decisions
import SchemaSieve.Proofs.Links

/-!
# The entries of compiled rules

Which entries compiling makes is known from the containers that a tree declares. Each name gets one
entry, in the order in which the names are declared first; behind these comes one entry without a
name if no container is named or one is not (`EntriesFor`). This holds of catalogs, and in every
catalog entry of the schemas that stand in the catalogs of its name or at the root. Whether there is
an entry for an object settles catalogs and schemas, and leaves out whatever has none
(`Reachable.namespaced`).
-/

namespace SchemaSieve

/-! ## Names of entries -/

/-- Whether names are those of the entries that declared ones ask for: each that is present, once
and in the order in which they are declared first, then the missing one if none is present or it is
declared. -/
structure EntriesFor (declared names : List (Option String)) : Prop where
  distinct : names.Nodup
  order : names = (declared.filterMap id).eraseDups.map some ++
    if declared.filterMap id = [] ∨ none ∈ declared then [none] else []

theorem entryNames_eq (declared : List (Option String)) :
    entryNames declared = (declared.filterMap id).eraseDups.map some ++
      if declared.filterMap id = [] ∨ none ∈ declared then [none] else [] := by
  have hempty : (declared.filterMap id).eraseDups = [] ↔ declared.filterMap id = [] := by
    simp only [List.eq_nil_iff_forall_not_mem, List.mem_eraseDups]
  unfold entryNames
  simp only [mergeNew_nil, Bool.or_eq_true, List.isEmpty_iff, List.contains_iff_mem, hempty]

theorem entriesFor_entryNames (declared : List (Option String)) :
    EntriesFor declared (entryNames declared) := by
  refine ⟨?_, entryNames_eq declared⟩
  unfold entryNames
  have hnames := (nodup_mergeNew List.nodup_nil (declared.filterMap id)).map
    (Option.some_injective String)
  simp only
  split_ifs
  · exact List.nodup_append.2 ⟨hnames, List.nodup_singleton none, by simp⟩
  · simpa using hnames

theorem entryNames_ne_nil (declared : List (Option String)) : entryNames declared ≠ [] := by
  rw [entryNames_eq]
  split_ifs with h
  · simp
  · rw [not_or] at h
    have hne : (declared.filterMap id).eraseDups ≠ [] := by
      simpa only [ne_eq, List.eq_nil_iff_forall_not_mem, List.mem_eraseDups] using h.1
    simpa using hne

section

variable {α : Type} {nameOf : α → Option String}

/-- A name finds an entry if it is declared or there is an entry without a name. -/
theorem findEntry?_eq_some_iff {entry : Option String → α} (hentry : ∀ k, nameOf (entry k) = k)
    {declared : List (Option String)} {n : String} :
    (∃ e, findEntry? nameOf (some n) ((entryNames declared).map entry) = some e) ↔
      some n ∈ declared ∨ none ∈ entryNames declared := by
  have hwild : none ∈ entryNames declared ↔ (∀ n, some n ∉ declared) ∨ none ∈ declared := by
    simp [mem_entryNames]
  simp only [findEntry?_entryNames hentry]
  constructor
  · rintro ⟨-, key, hr, rfl⟩
    cases hr with
    | named h => exact .inl h
    | wildcard _ h => exact .inr (hwild.2 h)
  · intro h
    by_cases hn : some n ∈ declared
    · exact ⟨_, some n, .named hn, rfl⟩
    · exact ⟨_, none, .wildcard (by rintro m ⟨⟩; exact hn) (hwild.1 (h.resolve_left hn)), rfl⟩

theorem mem_of_findEntry?_eq_some {name : Option String} {entries : List α} {e : α}
    (h : findEntry? nameOf name entries = some e) : e ∈ entries := by
  unfold findEntry? at h
  rw [Option.orElse_eq_orElse, Option.orElse_eq_or, Option.or_eq_some_iff] at h
  rcases h with h | ⟨-, h⟩
  · obtain ⟨n, -, h⟩ := Option.bind_eq_some_iff.1 h
    exact List.mem_of_find?_eq_some h
  · exact List.mem_of_find?_eq_some h

end

/-! ## Namespaces -/

/-- Whether an answer is that an object is included, or excluded, as a condition holds or not. -/
def Settles (answer : Except Finding Decision) (p : Prop) : Prop :=
  (p → answer = .ok .included) ∧ (¬ p → answer = .ok .excluded)

theorem settles_ofBool {b : Bool} {p : Prop} (h : b = true ↔ p) : Settles (.ok (.ofBool b)) p := by
  rw [← h]
  cases b
  · exact ⟨fun h => absurd h Bool.false_ne_true, fun _ => rfl⟩
  · exact ⟨fun _ => rfl, fun h => absurd rfl h⟩

namespace RuleTree

variable {t : RuleTree}

/-- Whether an entry is the one in which a name of a catalog is looked up. -/
def CatalogFor (t : RuleTree) (catalog : Option String) (e : CatalogEntry) : Prop :=
  e ∈ t.compile.sieve.catalogs ∧ Resolves (fun key => ∃ id, t.LegalCatalog key id) catalog e.name

/-- Whether an entry of a catalog entry is the one in which a name of a schema is looked up. -/
def SchemaFor (t : RuleTree) (c : CatalogEntry) (schema : Option String) (e : SchemaEntry) : Prop :=
  e ∈ c.schemas ∧ Resolves (fun key => ∃ id, t.LegalSchema c.name key id) schema e.name

/-- What entries a tree compiles to, and what follows for the objects that they are there for. The
legal catalogs are listed in the order of the tree. -/
structure Namespaced (t : RuleTree) : Prop where
  legalCatalogs : (∀ id key, (id, key) ∈ t.catalogs ↔ t.LegalCatalog key id) ∧
    (t.catalogs.map (·.1)).Pairwise (· < ·)
  legalSchemas : ∀ catalogKey id key,
    (id, key) ∈ t.candidates catalogKey ↔ t.LegalSchema catalogKey key id
  catalogs : EntriesFor (t.catalogs.map (·.2)) (t.compile.sieve.catalogs.map (·.name))
  schemas : ∀ c ∈ t.compile.sieve.catalogs, c.schemas ≠ [] ∧
    EntriesFor ((t.candidates c.name).map (·.2)) (c.schemas.map (·.name))
  catalog : ∀ path name, Text.nonBlank path.name = some name →
    Settles (t.compile.sieve.decide path .catalog)
      (some name ∈ t.catalogs.map (·.2) ∨ none ∈ t.compile.sieve.catalogs.map (·.name))
  schema : ∀ path name, Text.nonBlank path.name = some name →
    Settles (t.compile.sieve.decide path .schema)
      (∃ c, t.CatalogFor (Text.nonBlank path.catalog) c ∧
        (some name ∈ (t.candidates c.name).map (·.2) ∨ none ∈ c.schemas.map (·.name)))
  homeless : ∀ path kind, kind ≠ .catalog → kind ≠ .schema →
    (Text.nonBlank path.name).isSome = true →
    (kind = .column → (Text.nonBlank path.table).isSome = true) →
    (∀ c, t.CatalogFor (Text.nonBlank path.catalog) c →
      ∀ e, ¬ t.SchemaFor c (Text.nonBlank path.schema) e) →
    t.compile.sieve.decide path kind = .ok .excluded

theorem pairwise_childNodes (ht : t.WellFormed) (place : Nat) :
    ((t.childNodes place).map (·.1)).Pairwise (· < ·) := by
  have hchildren : (t.children place).Pairwise (· < ·) := ht.links.under_pairwise (some place)
  rw [List.pairwise_map, childNodes, List.pairwise_filterMap]
  refine hchildren.imp fun {a b} hlt c hc d hd => ?_
  obtain ⟨m, -, rfl⟩ := Option.map_eq_some_iff.1 hc
  obtain ⟨n, -, rfl⟩ := Option.map_eq_some_iff.1 hd
  exact hlt

theorem pairwise_catalogs (ht : t.WellFormed) : (t.catalogs.map (·.1)).Pairwise (· < ·) := by
  have hchildren := List.pairwise_map.1 (pairwise_childNodes ht rootId)
  rw [List.pairwise_map, catalogs, List.pairwise_filterMap]
  refine hchildren.imp fun {a b} hlt c hc d hd => ?_
  rcases a with ⟨a, _ | name | _ | _⟩ <;> cases hc
  rcases b with ⟨b, _ | name' | _ | _⟩ <;> cases hd
  exact hlt

theorem catalogs_compile (ht : t.WellFormed) :
    t.compile.sieve.catalogs = (entryNames (t.catalogs.map (·.2))).map t.catalogEntryAt := by
  rw [compile_sieve ht]

theorem schemas_catalogEntryAt (t : RuleTree) (key : Option String) :
    (t.catalogEntryAt key).schemas
      = (entryNames ((t.candidates key).map (·.2))).map (t.schemaEntryAt key) := by
  rw [catalogEntryAt]

theorem exists_eq_catalogEntryAt (ht : t.WellFormed) {c : CatalogEntry}
    (hc : c ∈ t.compile.sieve.catalogs) : ∃ key, c = t.catalogEntryAt key := by
  rw [catalogs_compile ht] at hc
  obtain ⟨key, -, rfl⟩ := List.mem_map.1 hc
  exact ⟨key, rfl⟩

/-- The entry in which a catalog is looked up is the one that is found for its name. -/
theorem catalogFor_iff (ht : t.WellFormed) {catalog : Option String} {c : CatalogEntry} :
    t.CatalogFor catalog c ↔ t.compile.sieve.catalog? catalog = some c := by
  have hmem : t.compile.sieve.catalog? catalog = some c → c ∈ t.compile.sieve.catalogs :=
    mem_of_findEntry?_eq_some
  constructor
  · rintro ⟨hc, hr⟩
    obtain ⟨key, rfl⟩ := exists_eq_catalogEntryAt ht hc
    exact (catalog?_compile ht).2 ⟨key, hr, rfl⟩
  · intro h
    obtain ⟨key, hr, rfl⟩ := (catalog?_compile ht).1 h
    exact ⟨hmem h, hr⟩

theorem schemaFor_iff (ht : t.WellFormed) {c : CatalogEntry}
    (hc : c ∈ t.compile.sieve.catalogs) {schema : Option String} {e : SchemaEntry} :
    t.SchemaFor c schema e ↔ findEntry? SchemaEntry.name schema c.schemas = some e := by
  obtain ⟨catalogKey, rfl⟩ := exists_eq_catalogEntryAt ht hc
  constructor
  · rintro ⟨he, hr⟩
    rw [schemas_catalogEntryAt] at he
    obtain ⟨key, -, rfl⟩ := List.mem_map.1 he
    exact (findEntry?_catalogEntryAt ht).2 ⟨key, hr, rfl⟩
  · intro h
    obtain ⟨key, hr, rfl⟩ := (findEntry?_catalogEntryAt ht).1 h
    exact ⟨mem_of_findEntry?_eq_some h, hr⟩

theorem map_name_catalogs (ht : t.WellFormed) :
    t.compile.sieve.catalogs.map (·.name) = entryNames (t.catalogs.map (·.2)) := by
  rw [catalogs_compile ht, List.map_map]
  exact List.map_id' _

theorem map_name_schemas (ht : t.WellFormed) {c : CatalogEntry}
    (hc : c ∈ t.compile.sieve.catalogs) :
    c.schemas.map (·.name) = entryNames ((t.candidates c.name).map (·.2)) := by
  obtain ⟨catalogKey, rfl⟩ := exists_eq_catalogEntryAt ht hc
  rw [schemas_catalogEntryAt, List.map_map]
  exact List.map_id' _

/-- A catalog with a name has an entry if it is declared or there is an entry without a name. -/
theorem isSome_catalog?_iff (ht : t.WellFormed) {name : String} :
    (t.compile.sieve.catalog? (some name)).isSome = true ↔
      some name ∈ t.catalogs.map (·.2) ∨ none ∈ t.compile.sieve.catalogs.map (·.name) := by
  rw [Option.isSome_iff_exists, map_name_catalogs ht, Sieve.catalog?, catalogs_compile ht]
  exact findEntry?_eq_some_iff fun _ => rfl

theorem isSome_schema?_iff (ht : t.WellFormed) {catalog : Option String} {name : String} :
    (t.compile.sieve.schema? catalog (some name)).isSome = true ↔
      ∃ c, t.CatalogFor catalog c ∧
        (some name ∈ (t.candidates c.name).map (·.2) ∨ none ∈ c.schemas.map (·.name)) := by
  have hentry : ∀ c, t.CatalogFor catalog c →
      ((∃ e, findEntry? SchemaEntry.name (some name) c.schemas = some e) ↔
        some name ∈ (t.candidates c.name).map (·.2) ∨ none ∈ c.schemas.map (·.name)) := by
    rintro c ⟨hc, -⟩
    rw [map_name_schemas ht hc]
    obtain ⟨catalogKey, rfl⟩ := exists_eq_catalogEntryAt ht hc
    rw [schemas_catalogEntryAt]
    exact findEntry?_eq_some_iff fun _ => rfl
  rw [Sieve.schema?, Option.isSome_iff_exists]
  simp only [Option.bind_eq_some_iff, ← catalogFor_iff ht]
  constructor
  · rintro ⟨e, c, hc, he⟩
    exact ⟨c, hc, (hentry c hc).1 ⟨e, he⟩⟩
  · rintro ⟨c, hc, h⟩
    obtain ⟨e, he⟩ := (hentry c hc).2 h
    exact ⟨e, c, hc, he⟩

/-- What stands where there is no entry is left out. -/
theorem decide_of_homeless (ht : t.WellFormed) {path : ObjectPath} {kind : ObjectKind}
    (hcatalog : kind ≠ .catalog) (hschema : kind ≠ .schema)
    (hname : (Text.nonBlank path.name).isSome = true)
    (htable : kind = .column → (Text.nonBlank path.table).isSome = true)
    (hhome : ∀ c, t.CatalogFor (Text.nonBlank path.catalog) c →
      ∀ e, ¬ t.SchemaFor c (Text.nonBlank path.schema) e) :
    t.compile.sieve.decide path kind = .ok .excluded := by
  have hscope : t.compile.sieve.scope? path = none := by
    rw [Option.eq_none_iff_forall_ne_some]
    intro e he
    obtain ⟨c, hc, he⟩ := Option.bind_eq_some_iff.1 he
    have hfor := (catalogFor_iff ht).2 hc
    exact hhome c hfor e ((schemaFor_iff ht hfor.1).2 he)
  have hout : ∀ test, t.compile.sieve.decideInScope path test = .excluded := by
    intro test
    rw [Sieve.decideInScope, hscope]
    rfl
  obtain ⟨name, hname⟩ := Option.isSome_iff_exists.1 hname
  cases kind with
  | catalog => exact absurd rfl hcatalog
  | schema => exact absurd rfl hschema
  | table => simp only [Sieve.decide, hname, hout]
  | procedure => simp only [Sieve.decide, hname, hout]
  | column =>
    obtain ⟨table, htable⟩ := Option.isSome_iff_exists.1 (htable rfl)
    simp only [Sieve.decide, hname, htable, hout]

/-- What entries compiling makes, and which catalogs and schemas are included. -/
theorem Reachable.namespaced (ht : t.Reachable) : t.Namespaced where
  legalCatalogs := ⟨fun _ _ => mem_catalogs ht.wellFormed, pairwise_catalogs ht.wellFormed⟩
  legalSchemas := fun _ _ _ => mem_candidates ht.wellFormed
  catalogs := by
    rw [map_name_catalogs ht.wellFormed]
    exact entriesFor_entryNames _
  schemas := by
    intro c hc
    have hnames := map_name_schemas ht.wellFormed hc
    constructor
    · intro hnil
      rw [hnil] at hnames
      exact entryNames_ne_nil _ hnames.symm
    · rw [hnames]
      exact entriesFor_entryNames _
  catalog := by
    intro path name hname
    simp only [Sieve.decide, hname]
    exact settles_ofBool (isSome_catalog?_iff ht.wellFormed)
  schema := by
    intro path name hname
    simp only [Sieve.decide, hname]
    exact settles_ofBool (isSome_schema?_iff ht.wellFormed)
  homeless := fun _ _ => decide_of_homeless ht.wellFormed

/-- Catalogs one of which stands twice and one of which has a blank name, and a schema for all. -/
def salesTwice : RuleTree :=
  empty.run [.attach 0 (.catalog (some "SALES")), .attach 0 (.catalog (some " ")),
    .attach 0 (.catalog (some "STOCK")), .attach 0 (.catalog (some "SALES")),
    .attach 0 (.schema (some "PUBLIC")), .attach 4 (.schema (some "EAST")),
    .attach 1 (.schema (some "WEST"))]

theorem namespaced_salesTwice :
    salesTwice.Reachable ∧ salesTwice.Namespaced ∧
      salesTwice.compile.sieve.catalogs.map (·.name) = [some "SALES", some "STOCK", none] ∧
        (salesTwice.candidates (some "SALES")).map (·.2)
          = [some "WEST", some "EAST", some "PUBLIC"] := by
  have ht : salesTwice.Reachable := reachable_run .empty _
  have hnames := ht.namespaced
  exact ⟨ht, hnames, hnames.catalogs.order.trans (by decide +kernel), by decide +kernel⟩

end RuleTree

end SchemaSieve
