import Mathlib.Tactic
import SchemaSieve.Proofs.Discovery
import SchemaSieve.Proofs.ScaffoldScopes

/-!
# Named places

In a tree of discovered objects a named place is known by the name of its catalog and the name of
its schema, each of which may be absent, and `Has` says which named objects stand there. As no two
catalogs beside each other have one name, nothing loose in a catalog is hidden by a schema of
another. So the rules in the scope of a named place are the includes of the tables and procedures
that stand there (`exists_include_scaffold_iff`).
-/

namespace SchemaSieve

namespace LiveTree

variable {t : LiveTree}

/-! ## Named places -/

/-- The nodes from a named place up to the top. -/
def placeChain (catalog schema : Option String) : List LiveNode :=
  (schema.map fun s => ⟨.schema, some s⟩).toList ++ (catalog.map fun c => ⟨.catalog, some c⟩).toList

theorem above_eq (o : DiscoveredObject) :
    o.above = (if o.kind = .column then o.table.map fun n => ⟨.table, some n⟩ else none).toList ++
      placeChain (if o.kind = .catalog then none else o.catalog)
        (if o.kind.isContainer then none else o.schema) := by
  rcases o with ⟨kind, _, catalog, schema, table⟩
  cases kind <;> rcases catalog with _ | c <;> rcases schema with _ | s <;>
    rcases table with _ | tb <;> rfl

/-- Whether a named object of a kind stands directly in a named place. -/
structure Has (t : LiveTree) (catalog schema : Option String) (kind : ObjectKind)
    (name : String) : Prop where
  named_catalog : Text.nonBlank catalog = catalog
  named_schema : Text.nonBlank schema = schema
  named : Text.isBlank name = false
  node : ∃ id, t.node? id = some ⟨kind, some name⟩ ∧
    t.chain (t.parent? id) = placeChain catalog schema

theorem isSome_of_mem_placeChain {catalog schema : Option String} {n : LiveNode}
    (hn : n ∈ placeChain catalog schema) : n.name.isSome = true := by
  rcases catalog with _ | c <;> rcases schema with _ | s <;> simp [placeChain] at hn
  · rw [hn]; rfl
  · rw [hn]; rfl
  · rcases hn with rfl | rfl <;> rfl

namespace Has

variable {catalog schema : Option String} {kind : ObjectKind} {name : String}

/-- A schema in which something stands is there. -/
theorem inSchema (ht : t.WellFormed) {s : String} (h : t.Has catalog (some s) kind name) :
    t.Has catalog none .schema s := by
  obtain ⟨hcatalog, hschema, -, id, -, hc⟩ := h
  obtain ⟨place, -, hplace, habove⟩ :=
    exists_of_chain_eq_cons ht (ht.links.isPlace_parent? id) hc
  exact ⟨hcatalog, rfl, (Text.nonBlank_eq_some_iff.1 hschema).2, place, hplace, habove⟩

/-- A catalog in which something stands is there. -/
theorem inCatalog (ht : t.WellFormed) {x : String} (h : t.Has (some x) schema kind name) :
    t.Has none none .catalog x := by
  suffices hnone : ∀ {kind name}, t.Has (some x) none kind name → t.Has none none .catalog x by
    rcases schema with _ | s
    · exact hnone h
    · exact hnone (h.inSchema ht)
  rintro kind name ⟨hcatalog, -, -, id, -, hc⟩
  obtain ⟨place, -, hplace, habove⟩ :=
    exists_of_chain_eq_cons ht (ht.links.isPlace_parent? id) hc
  exact ⟨rfl, rfl, (Text.nonBlank_eq_some_iff.1 hcatalog).2, place, hplace, habove⟩

end Has

/-! ## Stocks and sites of named places -/

section

variable {place : Option Nat} {catalog schema key : Option String} {base : List RuleNode}
  {kind : ObjectKind} {name s : String} {subject : RuleSubject} {id m : Nat}

theorem exists_stock_of_chain (ht : t.WellFormed) (hplace : t.forest.IsPlace place)
    (hcatalog : Text.nonBlank catalog = catalog) (hc : t.chain place = placeChain catalog none) :
    ∃ base, t.Stock place catalog base := by
  rcases catalog with _ | x
  · obtain rfl := eq_none_of_chain_eq_nil ht hplace hc
    exact t.exists_stock_top
  · obtain ⟨c, rfl, hn, habove⟩ := exists_of_chain_eq_cons ht hplace hc
    have htop := eq_none_of_chain_eq_nil ht (ht.links.isPlace_parent? c) habove
    exact ⟨_, .catalog ⟨hn, htop, (Text.nonBlank_eq_some_iff.1 hcatalog).2⟩⟩

/-- A schema hides nothing that is loose in another catalog, as no other has the same name. -/
theorem WellFormed.spillsTogether (ht : t.WellFormed) {x : String} {c : Nat}
    (hs : subject ≠ .column) (hc : t.Stands none .catalog x c)
    (hid : t.Stands (some c) subject.kind name id) : t.SpillsTogether x := by
  by_cases hm : ∃ s m, t.Stands (some c) .schema s m
  · obtain ⟨s, m, hm⟩ := hm
    exact .inr ⟨c, s, m, subject, name, id, hc, hm, hs, hid⟩
  · refine .inl fun c' s m hc' hm' => hm ⟨s, m, ?_⟩
    rwa [ht.distinct hc.node hc'.node (hc.parent.trans hc'.parent.symm)]

/-- Where a table or procedure stands in a named place is a site. -/
theorem site_of_chain (ht : t.WellFormed) (hcatalog : Text.nonBlank catalog = catalog)
    (hschema : Text.nonBlank schema = schema) (hc : t.chain place = placeChain catalog schema)
    (hs : subject ≠ .column) (hid : t.Stands place subject.kind name id) :
    t.Site place catalog schema := by
  have hplace : t.forest.IsPlace place := hid.parent ▸ ht.links.isPlace_parent? id
  rcases schema with _ | s
  · obtain ⟨base, hbase⟩ := exists_stock_of_chain ht hplace hcatalog hc
    refine .loose hbase fun x hx => ?_
    subst hx
    cases hbase with
    | catalog hstands => exact ht.spillsTogether hs hstands hid
  · obtain ⟨m, rfl, hn, habove⟩ := exists_of_chain_eq_cons ht hplace hc
    obtain ⟨base, hbase⟩ :=
      exists_stock_of_chain ht (ht.links.isPlace_parent? m) hcatalog habove
    exact .inSchema hbase ⟨hn, rfl, (Text.nonBlank_eq_some_iff.1 hschema).2⟩

theorem Has.exists_site (ht : t.WellFormed) (hs : subject ≠ .column)
    (h : t.Has catalog schema subject.kind name) :
    ∃ place id, t.Stands place subject.kind name id ∧ t.Site place catalog schema := by
  obtain ⟨hcatalog, hschema, hb, id, hn, hc⟩ := h
  have hid : t.Stands (t.parent? id) subject.kind name id := ⟨hn, rfl, hb⟩
  exact ⟨_, id, hid, site_of_chain ht hcatalog hschema hc hs hid⟩

namespace Stock

theorem chain_eq (ht : t.WellFormed) (h : t.Stock place key base) :
    t.chain place = placeChain key none := by
  cases h with
  | catalog hc =>
    rw [chain_of_node? ht hc.node, hc.parent]
    rfl
  | outside _ => rfl
  | root _ => rfl

theorem has (ht : t.WellFormed) (h : t.Stock place key base) (hid : t.Stands place kind name id) :
    t.Has key none kind name :=
  ⟨h.named, rfl, hid.named, id, hid.node, by rw [hid.parent, h.chain_eq ht]⟩

theorem has_inSchema (ht : t.WellFormed) (h : t.Stock place key base)
    (hm : t.Stands place .schema s m) (hid : t.Stands (some m) kind name id) :
    t.Has key (some s) kind name := by
  refine ⟨h.named, Text.nonBlank_some hm.named, hid.named, id, hid.node, ?_⟩
  rw [hid.parent, chain_of_node? ht hm.node, hm.parent, h.chain_eq ht]
  rfl

/-- What is listed in the scope of a named place is that of a stock for its catalog. -/
theorem key_eq (ht : t.WellFormed) (h : t.Stock place key base)
    (hid : t.Stands place kind name id) (hk : kind ≠ .catalog) (hcolumn : kind ≠ .column)
    {kind' : ObjectKind} {name' : String} (hhas : t.Has catalog schema kind' name')
    (hbase : base = [.catalog catalog, .root] ∨ base = [.root]) : key = catalog := by
  rcases hbase with rfl | rfl
  · cases h <;> rfl
  · cases h with
    | root hcrowds =>
      rcases catalog with _ | x
      · rfl
      · -- A named catalog at the top would crowd what is listed at the root.
        obtain ⟨-, -, hb, c, hn, hc⟩ := hhas.inCatalog ht
        have htop := eq_none_of_chain_eq_nil ht (ht.links.isPlace_parent? c) hc
        have hstands : t.Stands none .catalog x c := ⟨hn, htop, hb⟩
        exact absurd (hstands.crowds_roots ht.links hid hk hcolumn) hcrowds

end Stock

/-! ## Rules in the scope of a named place -/

/-- In the scope of a table or procedure the includes are those of what is listed from the place it
stands in. -/
theorem exists_include_scaffold_iff (ht : t.WellFormed) (hs : subject ≠ .column)
    (hhas : t.Has catalog schema subject.kind name) {p : NamePattern} :
    (∃ id, t.scaffold.Applies catalog schema id ∧ t.scaffold.HasRule id subject .includes p) ↔
      ∃ n, t.Has catalog schema subject.kind n ∧ validPattern? (Regex.escape n) = some p := by
  rw [t.scaffold_tidy.exists_rule_iff]
  constructor
  · rintro ⟨c, hc, source, hholds, hv⟩
    cases origin_of_holds ht.links hholds (by simp) with
    | inSchema hbase hm _ hid =>
      obtain ⟨rfl, hbases⟩ := RuleTree.schema_mem_scopeChains.1 hc
      obtain rfl := hbase.key_eq ht hm (by simp) (by simp) hhas hbases
      exact ⟨_, hbase.has_inSchema ht hm hid, hv⟩
    | hidden hbase hm _ hid =>
      obtain ⟨rfl, hbases⟩ := RuleTree.schema_mem_scopeChains.1 hc
      obtain rfl := hbase.key_eq ht hm (by simp) (by simp) hhas hbases
      exact ⟨_, hbase.has ht hid, hv⟩
    | @shown place key _ id n _ hbase hno _ hid =>
      have hbases : c = [.catalog catalog, .root] ∨ c = [.root] := by
        rcases hbase.eq_or_eq with rfl | rfl
        · simpa [RuleTree.scopeChains] using hc
        · exact .inr rfl
      obtain rfl := hbase.key_eq ht hid subject.kind_ne_catalog (RuleSubject.kind_ne_column hs)
        hhas hbases
      rcases schema with _ | s
      · exact ⟨_, hbase.has ht hid, hv⟩
      · -- The schema of the place stands beside what is listed outside of schemas.
        obtain ⟨-, -, hb, m, hn, hchain⟩ := hhas.inSchema ht
        refine absurd ⟨hn, ?_, hb⟩ (hno s m)
        exact eq_of_chain_eq ht (fun n hn => isSome_of_mem_placeChain hn)
          (ht.links.isPlace_parent? m) (hid.parent ▸ ht.links.isPlace_parent? id) hchain
          (hbase.chain_eq ht)
  · rintro ⟨n, hn, hv⟩
    obtain ⟨place, id, hid, hsite⟩ := hn.exists_site ht hs
    obtain ⟨c, hc, hholds⟩ := hsite.holds ht.links hs hid
    exact ⟨c, hc, _, hholds, hv⟩

end

end LiveTree

end SchemaSieve
