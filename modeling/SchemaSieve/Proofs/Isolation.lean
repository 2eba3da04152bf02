import Mathlib.Tactic
import SchemaSieve.Proofs.Documents

/-!
# Catalogs are isolated

What stands in the catalogs of one name says nothing about other catalogs. Two documents that differ
only there declare the same catalogs, so a name is looked up under the same key in both, and under
any other key than that name they have the same catalogs
(`RulesDocument.AgreeOutside.catalogsFor_eq`), so the same entry.
-/

namespace SchemaSieve

namespace RulesDocument

/-- Whether documents differ at most in what stands inside the catalogs with a name. These have the
same positions in both. -/
structure AgreeOutside (name : String) (d d' : RulesDocument) : Prop where
  catalogs : List.Forall₂ (fun c c' => c = c' ∨ c.name = some name ∧ c'.name = some name)
    d.catalogs d'.catalogs
  schemas : d.schemas = d'.schemas
  rules : d.rules = d'.rules

namespace AgreeOutside

variable {name : String} {d d' : RulesDocument}

theorem map_key_eq (h : AgreeOutside name d d') :
    d.catalogs.map CatalogRules.key = d'.catalogs.map CatalogRules.key := by
  have hkeys : List.Forall₂ (fun c c' => c.key = c'.key) d.catalogs d'.catalogs := by
    refine h.catalogs.imp ?_
    rintro c c' (rfl | ⟨hc, hc'⟩)
    · rfl
    · rw [CatalogRules.key, CatalogRules.key, hc, hc']
  rwa [← List.forall₂_eq_eq_eq, List.forall₂_map_left_iff, List.forall₂_map_right_iff]

/-- The catalogs under any other key are the same. -/
theorem catalogsFor_eq (h : AgreeOutside name d d') (hname : Text.isBlank name = false)
    {key : Option String} (hkey : key ≠ some name) :
    d.catalogsFor key = d'.catalogsFor key := by
  have hskip : ∀ c : CatalogRules, c.name = some name → (c.key == key) = false := by
    intro c hc
    rw [CatalogRules.key, hc, Text.nonBlank_some hname]
    simpa using hkey.symm
  have hfilter : ∀ {cs cs' : List CatalogRules},
      List.Forall₂ (fun c c' => c = c' ∨ c.name = some name ∧ c'.name = some name) cs cs' →
        (cs.filter fun c => c.key == key) = cs'.filter fun c => c.key == key := by
    intro cs cs' hcs
    induction hcs with
    | nil => rfl
    | cons hhead _ ih =>
      rcases hhead with rfl | ⟨hc, hc'⟩
      · rw [List.filter_cons, List.filter_cons, ih]
      · rw [List.filter_cons, List.filter_cons, hskip _ hc, hskip _ hc', ih]
        rfl
  exact hfilter h.catalogs

/-- What stands in the catalogs of a name decides about nothing in other catalogs, nor about the
catalogs themselves. -/
theorem decide_agree (h : AgreeOutside name d d') (hname : Text.isBlank name = false) :
    (∀ path kind, path.catalog ≠ some name →
      (RuleTree.ofDocument d).compile.sieve.decide path kind
        = (RuleTree.ofDocument d').compile.sieve.decide path kind) ∧
    ∀ path, (RuleTree.ofDocument d).compile.sieve.decide path .catalog
      = (RuleTree.ofDocument d').compile.sieve.decide path .catalog := by
  have hcatalogs : ∀ key,
      key ∈ d.catalogs.map CatalogRules.key ↔ key ∈ d'.catalogs.map CatalogRules.key := by
    simp only [h.map_key_eq, implies_true]
  refine ⟨fun path kind hpath => ?_, fun path => ?_⟩
  · refine Sieve.decide_congr (fun _ _ => isSome_catalog?_eq hcatalogs) fun _ _ =>
      rel_schema? hcatalogs fun key hkey => ?_
    have hne : key ≠ some name := by
      rintro rfl
      exact hpath (Text.nonBlank_eq_some_iff.1 hkey.eq_some).1
    have hown := h.catalogsFor_eq hname hne
    refine ⟨fun k => ?_, fun schemaKey => ?_⟩
    · rw [candidates_congr hown h.schemas]
    · rw [schemaEntryAt_congr hown h.schemas h.rules]
      exact .refl _ _
  · exact Sieve.decide_congr (fun _ _ => isSome_catalog?_eq hcatalogs) (absurd rfl)

end AgreeOutside

/-- One schema for all catalogs, and a table that every catalog leaves out. -/
def sharedSchema (inside : CatalogRules) : RulesDocument where
  catalogs := [inside, { name := some "EU", rules := { excludeTables := ["T"] } }]
  schemas := [{ name := some "S", rules := { includeTables := [.bare "T|U"] } }]

/-- A catalog for which other tables are included and a schema of its own without a name. -/
def crowded : CatalogRules where
  name := some "SALES"
  schemas := [{ rules := { includeColumns := ["("] } }]
  rules := { includeTables := [.detailed "V" ["ID"] []], excludeProcedures := [".*"] }

theorem decide_agree_sharedSchema :
    AgreeOutside "SALES" (sharedSchema { name := some "SALES" }) (sharedSchema crowded) ∧
      (some "EU" : Option String) ≠ some "SALES" ∧ Text.isBlank "SALES" = false ∧
        (RuleTree.ofDocument (sharedSchema crowded)).compile.sieve.decide
          ⟨some "EU", some "S", none, some "U"⟩ .table = .ok .included := by
  have hagree : AgreeOutside "SALES" (sharedSchema { name := some "SALES" })
      (sharedSchema crowded) :=
    ⟨.cons (.inr ⟨rfl, rfl⟩) (.cons (.inl rfl) .nil), rfl, rfl⟩
  have hpath : (some "EU" : Option String) ≠ some "SALES" := by decide
  have hname : Text.isBlank "SALES" = false := by decide
  refine ⟨hagree, hpath, hname, ?_⟩
  rw [← (hagree.decide_agree hname).1 ⟨some "EU", some "S", none, some "U"⟩ .table hpath]
  decide +kernel

end RulesDocument

end SchemaSieve
