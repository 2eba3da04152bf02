import Mathlib.Tactic
import SchemaSieve.Proofs.Decisions
import SchemaSieve.Proofs.Fillings

/-!
# Scopes of a scaffold

In a tidy rule tree which containers apply to a pair of names is read off the chains that the tree
holds. In the scaffold of any live tree both names of the place of a table or procedure are looked
up under themselves (`Site.resolves`), and among the rules that apply there is the one by which it is
listed (`Site.holds`). What is loose in one of several catalogs of one name asks for a condition
(`SpillsTogether`), as these are split one by one but filled into one container.
-/

namespace SchemaSieve

namespace RuleTree

variable {t : RuleTree} {catalogKey schemaKey key : Option String}

/-! ## Scopes by chains -/

/-- The chains of the containers that apply under a pair of keys. -/
def scopeChains (catalogKey schemaKey : Option String) : List (List RuleNode) :=
  [[.schema schemaKey, .catalog catalogKey, .root], [.schema schemaKey, .root],
    [.catalog catalogKey, .root], [.root]]

theorem schema_mem_scopeChains {base : List RuleNode} :
    .schema key :: base ∈ scopeChains catalogKey schemaKey ↔
      key = schemaKey ∧ (base = [.catalog catalogKey, .root] ∨ base = [.root]) := by
  simp [scopeChains, and_or_left]

/-- In a tidy tree all nodes are legal. -/
theorem Tidy.legal_of_contains (ht : t.Tidy) {id : Nat} (hid : t.forest.contains id = true) :
    t.Legal id := by
  induction id using Nat.strong_induction_on with
  | _ id ih =>
    by_cases hroot : id = rootId
    · exact hroot ▸ .root
    · obtain ⟨place, hp⟩ := ht.wellFormed.under hid hroot
      obtain ⟨hlt, hplace⟩ := ht.wellFormed.links.parent hp
      obtain ⟨node, hn⟩ := Forest.contains_iff_value?.1 hid
      obtain ⟨holder, hh⟩ := Forest.contains_iff_value?.1 hplace
      exact .child (ih place hlt hplace) hp hh hn (ht.legal hp hn hh)

theorem Tidy.legalCatalog_iff (ht : t.Tidy) {id : Nat} :
    t.LegalCatalog key id ↔ t.forest.contains id = true ∧ t.chain id = [.catalog key, .root] := by
  constructor
  · rintro ⟨hl, name, hn, rfl⟩
    rw [ht.plain hn]
    refine ⟨Forest.contains_of_value? hn, ?_⟩
    cases hl with
    | root =>
      rw [ht.wellFormed.node?_root] at hn
      cases hn
    | child hplace hp hholder hnode hcan =>
      rw [hn, Option.some.injEq] at hnode
      subst hnode
      obtain rfl := RuleNode.eq_root_of_canContain_catalog hcan
      obtain rfl := hplace.eq_rootId hholder
      rw [ht.wellFormed.chain_child hp hn, ht.wellFormed.chain_root]
  · rintro ⟨hid, hc⟩
    have hn := ht.wellFormed.node?_of_chain hid hc
    exact ⟨ht.legal_of_contains hid, key, hn, ht.plain hn⟩

theorem Tidy.legalSchema_iff (ht : t.Tidy) {id : Nat} :
    t.LegalSchema catalogKey key id ↔ t.forest.contains id = true ∧
      (t.chain id = [.schema key, .root] ∨
        t.chain id = [.schema key, .catalog catalogKey, .root]) := by
  constructor
  · rintro ⟨-, ⟨name, hn, rfl⟩, place, hp, hplace⟩
    rw [ht.plain hn, ht.wellFormed.chain_child hp hn]
    refine ⟨Forest.contains_of_value? hn, ?_⟩
    rcases hplace with rfl | hcatalog
    · rw [ht.wellFormed.chain_root]
      exact .inl rfl
    · rw [(ht.legalCatalog_iff.1 hcatalog).2]
      exact .inr rfl
  · rintro ⟨hid, hc | hc⟩
    · have hn := ht.wellFormed.node?_of_chain hid hc
      obtain ⟨place, hp, hplace, hpc⟩ := ht.wellFormed.place_of_chain hid hc
      have hroot := (ht.legal_of_contains hplace).eq_rootId
        (ht.wellFormed.node?_of_chain hplace hpc)
      exact ⟨ht.legal_of_contains hid, ⟨key, hn, ht.plain hn⟩, place, hp, .inl hroot⟩
    · have hn := ht.wellFormed.node?_of_chain hid hc
      obtain ⟨place, hp, hplace, hpc⟩ := ht.wellFormed.place_of_chain hid hc
      exact ⟨ht.legal_of_contains hid, ⟨key, hn, ht.plain hn⟩, place, hp,
        .inr (ht.legalCatalog_iff.2 ⟨hplace, hpc⟩)⟩

theorem Tidy.exists_legalCatalog_iff (ht : t.Tidy) :
    (∃ id, t.LegalCatalog key id) ↔ t.Holds [.catalog key, .root] := by
  simp only [ht.legalCatalog_iff, Holds]

theorem Tidy.exists_legalSchema_iff (ht : t.Tidy) :
    (∃ id, t.LegalSchema catalogKey key id) ↔
      t.Holds [.schema key, .root] ∨ t.Holds [.schema key, .catalog catalogKey, .root] := by
  simp only [ht.legalSchema_iff, Holds, ← exists_or, and_or_left]

theorem Tidy.applies_iff (ht : t.Tidy) {id : Nat} :
    t.Applies catalogKey schemaKey id ↔
      t.forest.contains id = true ∧ t.chain id ∈ scopeChains catalogKey schemaKey := by
  have hroot : id = rootId ↔ t.forest.contains id = true ∧ t.chain id = [.root] := by
    constructor
    · rintro rfl
      exact ⟨ht.wellFormed.contains_root, ht.wellFormed.chain_root⟩
    · rintro ⟨hid, hc⟩
      exact (ht.legal_of_contains hid).eq_rootId (ht.wellFormed.node?_of_chain hid hc)
  rw [Applies, ht.legalSchema_iff, ht.legalCatalog_iff, hroot]
  simp only [scopeChains, List.mem_cons, List.not_mem_nil, or_false]
  tauto

/-- The valid rules in the containers that apply, by the chains of the rules. -/
theorem Tidy.exists_rule_iff (ht : t.Tidy) {subject : RuleSubject} {polarity : Polarity}
    {p : NamePattern} :
    (∃ id, t.Applies catalogKey schemaKey id ∧ t.HasRule id subject polarity p) ↔
      ∃ c ∈ scopeChains catalogKey schemaKey, ∃ source,
        t.Holds (.rule subject polarity source :: c) ∧ validPattern? source = some p := by
  constructor
  · rintro ⟨place, happ, id, source, hp, hn, hv⟩
    exact ⟨_, (ht.applies_iff.1 happ).2, source,
      ⟨id, Forest.contains_of_value? hn, ht.wellFormed.chain_child hp hn⟩, hv⟩
  · rintro ⟨c, hc, source, ⟨id, hid, hchain⟩, hv⟩
    have hn := ht.wellFormed.node?_of_chain hid hchain
    obtain ⟨holder, above, rfl⟩ : ∃ holder above, c = holder :: above := by
      simp only [scopeChains, List.mem_cons, List.not_mem_nil, or_false] at hc
      rcases hc with rfl | rfl | rfl | rfl <;> exact ⟨_, _, rfl⟩
    obtain ⟨place, hp, hplace, hpc⟩ := ht.wellFormed.place_of_chain hid hchain
    exact ⟨place, ht.applies_iff.2 ⟨hplace, hpc ▸ hc⟩, id, source, hp, hn, hv⟩

end RuleTree

namespace LiveTree

variable {t : LiveTree} {place : Option Nat} {key catalog schema : Option String}
  {base : List RuleNode}

/-! ## Catalogs of a scaffold -/

/-- A named catalog at the top crowds what else is listed there. -/
theorem Stands.crowds_roots (hf : t.forest.Linked) {x n : String} {c m : Nat} {kind : ObjectKind}
    (hc : t.Stands none .catalog x c) (hm : t.Stands none kind n m) (hk : kind ≠ .catalog)
    (hcolumn : kind ≠ .column) : t.Crowds .catalog t.roots :=
  ⟨⟨c, (mem_roots hf hc.node).2 hc.parent, x, hc.node, hc.named⟩, m,
    (mem_roots hf hm.node).2 hm.parent, kind, n, hm.node, hm.named, ObjectKind.catalog_rank_lt hk,
    hcolumn⟩

theorem holds_anyCatalog (h : t.Crowds .catalog t.roots) :
    t.scaffold.Holds [.catalog none, .root] := by
  refine holds_scaffold.2 (.inr (.listed (.inr ?_)))
  rw [share_root_of_crowds h]
  exact ⟨hidden_ne_nil_of_crowds h, rfl⟩

/-- The name of the catalog of what is listed is looked up under itself. -/
theorem Stock.resolves_catalog (hf : t.forest.Linked) (hbase : t.Stock place key base)
    {kind : ObjectKind} {n : String} {m : Nat} (hm : t.Stands place kind n m)
    (hk : kind ≠ .catalog) (hcolumn : kind ≠ .column) :
    Resolves (fun key => ∃ id, t.scaffold.LegalCatalog key id) key key := by
  simp only [t.scaffold_tidy.exists_legalCatalog_iff]
  cases hbase with
  | catalog hc => exact .named (holds_scaffold.2 (.inr (.listed (hc.opens_catalog hf).lists)))
  | outside hcrowds => exact .wildcard (by simp) (.inr (holds_anyCatalog hcrowds))
  | root hcrowds =>
    refine .wildcard (by simp) (.inl fun x hx => ?_)
    cases origin_of_holds hf hx (by simp) with
    | catalog hc => exact hcrowds (hc.crowds_roots hf hm hk hcolumn)

/-! ## Schemas of a scaffold -/

/-- Schemas stand at the root of a scaffold only where no catalog crowds the top. -/
theorem exists_of_holds_rootSchema (hf : t.forest.Linked) {s : String}
    (h : t.scaffold.Holds [.schema (some s), .root]) :
    ¬ t.Crowds .catalog t.roots ∧ ∃ m, t.Stands none .schema s m := by
  cases origin_of_holds hf h (by simp) with
  | schema hbase hm =>
    cases hbase with
    | root hcrowds => exact ⟨hcrowds, _, hm⟩

theorem exists_of_holds_anyCatalogSchema (hf : t.forest.Linked) {s : String}
    (h : t.scaffold.Holds [.schema (some s), .catalog none, .root]) :
    t.Crowds .catalog t.roots ∧ ∃ m, t.Stands none .schema s m := by
  cases origin_of_holds hf h (by simp) with
  | schema hbase hm =>
    cases hbase with
    | outside hcrowds => exact ⟨hcrowds, _, hm⟩

theorem exists_of_holds_catalogSchema (hf : t.forest.Linked) {s x : String}
    (h : t.scaffold.Holds [.schema (some s), .catalog (some x), .root]) :
    ∃ c m, t.Stands none .catalog x c ∧ t.Stands (some c) .schema s m := by
  cases origin_of_holds hf h (by simp) with
  | schema hbase hm =>
    cases hbase with
    | catalog hc => exact ⟨_, _, hc, hm⟩

theorem Stock.legalSchema (hbase : t.Stock place key base)
    (h : t.scaffold.Holds (.schema schema :: base)) :
    ∃ id, t.scaffold.LegalSchema key schema id := by
  rw [t.scaffold_tidy.exists_legalSchema_iff]
  rcases hbase.eq_or_eq with rfl | rfl
  · exact .inr h
  · exact .inl h

theorem Stock.resolves_schema (hf : t.forest.Linked) (hbase : t.Stock place key base)
    {s : String} {m : Nat}
    (hm : t.Stands place .schema s m) :
    Resolves (fun k => ∃ id, t.scaffold.LegalSchema key k id) (some s) (some s) := by
  obtain ⟨holder, above, members, rfl, hfills⟩ := hbase.exists_fills hf
  exact .named (hbase.legalSchema (hfills.holds_schema hm))

/-- Whether schemas hide nothing that is loose in the catalogs of one name: none of these holds a
named schema, or one of them holds a named table or procedure beside one. -/
def SpillsTogether (t : LiveTree) (x : String) : Prop :=
  (∀ c s m, t.Stands none .catalog x c → ¬ t.Stands (some c) .schema s m) ∨
    ∃ c s m subject n id, t.Stands none .catalog x c ∧ t.Stands (some c) .schema s m ∧
      subject ≠ .column ∧ t.Stands (some c) (RuleSubject.kind subject) n id

/-- Beside a named schema there is a schema without a name to look in, and elsewhere there is no
schema to be looked in instead. -/
theorem Stock.resolves_loose (hf : t.forest.Linked) (hbase : t.Stock place key base)
    (hspills : ∀ x, key = some x → t.SpillsTogether x) {subject : RuleSubject} {n : String}
    {id : Nat} (hs : subject ≠ .column) (hid : t.Stands place subject.kind n id) :
    Resolves (fun k => ∃ id, t.scaffold.LegalSchema key k id) none none := by
  -- A named schema beside the object opens the one without a name.
  have hany : ∀ {place base s m subject n id}, t.Stock place key base →
      t.Stands place .schema s m → subject ≠ .column →
        t.Stands place (RuleSubject.kind subject) n id →
          ∃ id, t.scaffold.LegalSchema key none id := by
    intro place base s m subject n id hbase hm hs hid
    obtain ⟨holder, above, members, rfl, hfills⟩ := hbase.exists_fills hf
    exact hbase.legalSchema (t.scaffold_tidy.wellFormed.holds_of_suffix
      (hfills.holds_hidden hm hs hid) (List.suffix_cons _ _) (List.cons_ne_nil _ _))
  refine .wildcard (by simp) ?_
  by_cases hm : ∃ s m, t.Stands place .schema s m
  · obtain ⟨s, m, hm⟩ := hm
    exact .inr (hany hbase hm hs hid)
  · push Not at hm
    cases hbase with
    | @catalog x c hc =>
      rcases hspills x rfl with hno | ⟨c', s, m, subject', n', id', hc', hm', hs', hid'⟩
      · refine .inl fun s => ?_
        rw [t.scaffold_tidy.exists_legalSchema_iff]
        rintro (hholds | hholds)
        · obtain ⟨hcrowds, m, hm⟩ := exists_of_holds_rootSchema hf hholds
          exact hcrowds (hc.crowds_roots hf hm (by simp) (by simp))
        · obtain ⟨c', m, hc', hm'⟩ := exists_of_holds_catalogSchema hf hholds
          exact hno c' s m hc' hm'
      · exact .inr (hany (.catalog hc') hm' hs' hid')
    | outside hcrowds =>
      refine .inl fun s => ?_
      rw [t.scaffold_tidy.exists_legalSchema_iff]
      rintro (hholds | hholds)
      · exact (exists_of_holds_rootSchema hf hholds).1 hcrowds
      · obtain ⟨-, m, hm'⟩ := exists_of_holds_anyCatalogSchema hf hholds
        exact hm s m hm'
    | root hcrowds =>
      refine .inl fun s => ?_
      rw [t.scaffold_tidy.exists_legalSchema_iff]
      rintro (hholds | hholds)
      · obtain ⟨-, m, hm'⟩ := exists_of_holds_rootSchema hf hholds
        exact hm s m hm'
      · exact hcrowds (exists_of_holds_anyCatalogSchema hf hholds).1

/-! ## Scopes of tables and procedures -/

/-- The places in which tables and procedures are listed, with the names of the catalog and the
schema: the top and the named catalogs there, and the named schemas in these. -/
inductive Site (t : LiveTree) : Option Nat → Option String → Option String → Prop where
  | loose {place : Option Nat} {key : Option String} {base : List RuleNode}
      (hbase : t.Stock place key base) (hspills : ∀ x, key = some x → t.SpillsTogether x) :
    Site t place key none
  | inSchema {place : Option Nat} {key : Option String} {base : List RuleNode} {m : Nat}
      {s : String} (hbase : t.Stock place key base) (hm : t.Stands place .schema s m) :
    Site t (some m) key (some s)

namespace Site

variable {subject : RuleSubject} {n : String} {id : Nat}

theorem named (h : t.Site place catalog schema) :
    Text.nonBlank catalog = catalog ∧ Text.nonBlank schema = schema := by
  cases h with
  | loose hbase _ => exact ⟨hbase.named, rfl⟩
  | inSchema hbase hm => exact ⟨hbase.named, Text.nonBlank_some hm.named⟩

/-- Both names are looked up under themselves. -/
theorem resolves (hf : t.forest.Linked) (h : t.Site place catalog schema)
    (hs : subject ≠ .column) (hid : t.Stands place subject.kind n id) :
    t.scaffold.Scoped catalog schema catalog schema := by
  cases h with
  | loose hbase hspills =>
    exact ⟨hbase.resolves_catalog hf hid subject.kind_ne_catalog (RuleSubject.kind_ne_column hs),
      hbase.resolves_loose hf hspills hs hid⟩
  | inSchema hbase hm =>
    exact ⟨hbase.resolves_catalog hf hm (by simp) (by simp), hbase.resolves_schema hf hm⟩

/-- The rule by which an object is listed applies to it. -/
theorem holds (hf : t.forest.Linked) (h : t.Site place catalog schema)
    (hs : subject ≠ .column) (hid : t.Stands place subject.kind n id) :
    ∃ c ∈ RuleTree.scopeChains catalog schema,
      t.scaffold.Holds (.rule subject .includes (Regex.escape n) :: c) := by
  cases h with
  | loose hbase _ =>
    obtain ⟨holder, above, members, rfl, hfills⟩ := hbase.exists_fills hf
    by_cases hm : ∃ s m, t.Stands place .schema s m
    · obtain ⟨s, m, hm⟩ := hm
      refine ⟨_, ?_, hfills.holds_hidden hm hs hid⟩
      rcases hbase.eq_or_eq with heq | heq <;> simp [heq, RuleTree.scopeChains]
    · push Not at hm
      refine ⟨_, ?_, hfills.holds_shown hm hs hid⟩
      rcases hbase.eq_or_eq with heq | heq <;> simp [heq, RuleTree.scopeChains]
  | inSchema hbase hm =>
    obtain ⟨holder, above, members, rfl, hfills⟩ := hbase.exists_fills hf
    refine ⟨_, ?_, hfills.holds_inSchema hm hs hid⟩
    rcases hbase.eq_or_eq with heq | heq <;> simp [heq, RuleTree.scopeChains]

end Site

theorem rule_of_holds (hf : t.forest.Linked) {subject : RuleSubject} {polarity : Polarity}
    {source : String}
    {c : List RuleNode} (h : t.scaffold.Holds (.rule subject polarity source :: c)) :
    subject ≠ .column ∧ polarity = .includes := by
  cases origin_of_holds hf h (by simp) with
  | inSchema _ _ hs _ => exact ⟨hs, rfl⟩
  | hidden _ _ hs _ => exact ⟨hs, rfl⟩
  | shown _ _ hs _ => exact ⟨hs, rfl⟩

end LiveTree

end SchemaSieve
