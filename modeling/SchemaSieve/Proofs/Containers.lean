import Mathlib.Tactic
import SchemaSieve.Proofs.Decisions

/-!
# Trees with the same containers

Which containers apply to an object depends on the namespaces of a tree alone. Trees that agree in
them look every name up under the same keys, so they decide about an object alike if its name passes
their rules alike (`SameContainers.decide_eq`).
-/

namespace SchemaSieve

/-- Sieves decide alike about an object if both include it or neither does. -/
theorem Sieve.decide_eq_of_included_iff {s s' : Sieve} {path : ObjectPath} {kind : ObjectKind}
    (h : s.decide path kind = .ok .included ↔ s'.decide path kind = .ok .included) :
    s.decide path kind = s'.decide path kind := by
  have hok : ∀ d d' : Decision, ((.ok d : Except Finding Decision) = .ok .included ↔
      (.ok d' : Except Finding Decision) = .ok .included) →
        (.ok d : Except Finding Decision) = .ok d' := by
    intro d d'
    cases d <;> cases d' <;> simp
  unfold decide at h ⊢
  rcases hname : Text.nonBlank path.name with _ | name
  · rfl
  · rw [hname] at h
    cases kind with
    | column =>
      rcases htable : Text.nonBlank path.table with _ | table
      · rfl
      · rw [htable] at h
        exact hok _ _ h
    | catalog | schema | table | procedure => exact hok _ _ h

namespace RuleTree

variable {t t' : RuleTree} {catalogKey schemaKey : Option String}

/-- Whether two trees have the same catalogs and the same schemas in them and at the root. -/
structure SameContainers (t t' : RuleTree) : Prop where
  catalogs : t'.catalogs = t.catalogs
  candidates : ∀ key, t'.candidates key = t.candidates key

namespace SameContainers

theorem refl (t : RuleTree) : t.SameContainers t := ⟨rfl, fun _ => rfl⟩

theorem applicable_eq (h : t.SameContainers t') (catalogKey schemaKey : Option String) :
    t'.applicable catalogKey schemaKey = t.applicable catalogKey schemaKey := by
  rw [applicable, applicable, h.candidates, h.catalogs]

section

variable (h : t.SameContainers t') (ht : t.WellFormed) (ht' : t'.WellFormed)

include h ht ht'

theorem applies_iff {place : Nat} :
    t'.Applies catalogKey schemaKey place ↔ t.Applies catalogKey schemaKey place := by
  rw [← mem_applicable ht', ← mem_applicable ht, h.applicable_eq]

theorem resolves_catalog_iff {catalog key : Option String} :
    Resolves (fun key => ∃ i, t'.LegalCatalog key i) catalog key ↔
      Resolves (fun key => ∃ i, t.LegalCatalog key i) catalog key := by
  refine Resolves.congr fun k => ?_
  simp only [← mem_catalogs ht', ← mem_catalogs ht, h.catalogs]

theorem scoped_iff {catalog schema : Option String} :
    t'.Scoped catalog schema catalogKey schemaKey ↔
      t.Scoped catalog schema catalogKey schemaKey := by
  refine and_congr (h.resolves_catalog_iff ht ht') (Resolves.congr fun k => ?_)
  simp only [← mem_candidates ht', ← mem_candidates ht, h.candidates]

theorem decide_eq {path : ObjectPath} {kind : ObjectKind}
    (hpasses : ∀ catalogKey schemaKey,
      t.Scoped (Text.nonBlank path.catalog) (Text.nonBlank path.schema) catalogKey schemaKey →
        ∀ subject : RuleSubject, subject ≠ .column → kind = subject.kind → ∀ name,
          Text.nonBlank path.name = some name →
            (t'.PassesIn catalogKey schemaKey subject name ↔
              t.PassesIn catalogKey schemaKey subject name))
    (hcolumn : ∀ catalogKey schemaKey,
      t.Scoped (Text.nonBlank path.catalog) (Text.nonBlank path.schema) catalogKey schemaKey →
        kind = .column → ∀ table name, Text.nonBlank path.name = some name →
          (t'.PassesColumn catalogKey schemaKey table name ↔
            t.PassesColumn catalogKey schemaKey table name)) :
    t'.compile.sieve.decide path kind = t.compile.sieve.decide path kind := by
  refine Sieve.decide_eq_of_included_iff ?_
  rcases hname : Text.nonBlank path.name with _ | name
  · simp [Sieve.decide, hname]
  have hsubject : ∀ subject : RuleSubject, subject ≠ .column → kind = subject.kind →
      (t'.compile.sieve.decide path kind = .ok .included ↔
        t.compile.sieve.decide path kind = .ok .included) := by
    intro subject hs hk
    rw [hk, decide_subject_iff ht' hs hname, decide_subject_iff ht hs hname]
    refine exists_congr fun catalogKey => exists_congr fun schemaKey => ?_
    rw [h.scoped_iff ht ht']
    exact and_congr_right fun hscope => hpasses _ _ hscope subject hs hk name hname
  cases hk : kind with
  | catalog =>
    simp only [Sieve.decide, hname, Except.ok.injEq, Decision.ofBool_eq_included_iff,
      isSome_catalog?_compile ht', isSome_catalog?_compile ht, h.resolves_catalog_iff ht ht']
  | schema =>
    simp only [Sieve.decide, hname, Except.ok.injEq, Decision.ofBool_eq_included_iff,
      isSome_schema?_compile ht', isSome_schema?_compile ht, h.scoped_iff ht ht']
  | table => exact hk ▸ hsubject .table (by simp) hk
  | procedure => exact hk ▸ hsubject .procedure (by simp) hk
  | column =>
    rcases htable : Text.nonBlank path.table with _ | table
    · simp [Sieve.decide, hname, htable]
    · rw [decide_column_iff ht' hname htable, decide_column_iff ht hname htable]
      refine exists_congr fun catalogKey => exists_congr fun schemaKey => ?_
      rw [h.scoped_iff ht ht']
      exact and_congr_right fun hscope => hcolumn _ _ hscope hk table name hname

end

end SameContainers

end RuleTree

end SchemaSieve
