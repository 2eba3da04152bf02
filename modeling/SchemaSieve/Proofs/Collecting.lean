import Mathlib.Tactic
import SchemaSieve.Proofs.Branches
import SchemaSieve.Proofs.Entries

/-!
# Compiling in two passes

Declarations of one name are collected into one before the entries are made. As merging is
associative, the entries are those of the declarations as they stand (`Sieve.ofBranch_eq`). What the
entries need of a list is said by `Alike`: the order in which its names come up first, and what the
items of each name amount to. A step of collecting keeps both.
-/

namespace SchemaSieve

/-- The names that come up again ask for nothing. -/
theorem entryNames_mergeNew (names names' : List (Option String)) :
    entryNames (mergeNew names names') = entryNames (names ++ names') := by
  induction names' generalizing names with
  | nil => rw [List.append_nil]; rfl
  | cons name names' ih =>
    rw [mergeNew, List.foldl_cons, ← mergeNew, ih, addNew]
    split_ifs with hmem
    · exact (entryNames_append_cons hmem).symm
    · rw [List.append_assoc, List.singleton_append]

/-! ## Lists that amount to the same -/

/-- A relation of lists that is kept when lists are put in a row. -/
structure RowCongruence {α : Type} (S : List α → List α → Prop) : Prop where
  refl : ∀ xs, S xs xs
  trans : ∀ {xs ys zs}, S xs ys → S ys zs → S xs zs
  append : ∀ {xs xs' ys ys'}, S xs xs' → S ys ys' → S (xs ++ ys) (xs' ++ ys')

/-- Two lists have the same names in the order in which they come up first, and their items of each
name are related. -/
structure Alike {α : Type} (nameOf : α → Option String) (S : List α → List α → Prop)
    (xs ys : List α) : Prop where
  names : mergeNew [] (xs.map nameOf) = mergeNew [] (ys.map nameOf)
  held : ∀ name, S (xs.filter fun x => nameOf x == name) (ys.filter fun y => nameOf y == name)

section

variable {α : Type} {nameOf : α → Option String} {absorb : α → α → α}
  {S : List α → List α → Prop} {xs ys : List α}

theorem Alike.entryNames_eq (h : Alike nameOf S xs ys) :
    entryNames (xs.map nameOf) = entryNames (ys.map nameOf) := by
  have hfirst : ∀ zs : List α,
      entryNames (zs.map nameOf) = entryNames (mergeNew [] (zs.map nameOf)) :=
    fun zs => (entryNames_mergeNew [] (zs.map nameOf)).symm
  rw [hfirst, hfirst, h.names]

namespace RowCongruence

theorem alike (hS : RowCongruence S) : RowCongruence (Alike nameOf S) where
  refl xs := ⟨rfl, fun _ => hS.refl _⟩
  trans h h' := ⟨h.names.trans h'.names, fun name => hS.trans (h.held name) (h'.held name)⟩
  append h h' := by
    refine ⟨?_, fun name => ?_⟩
    · rw [List.map_append, List.map_append, mergeNew_append, mergeNew_append, h.names,
        ← mergeNew_mergeNew_nil, h'.names, mergeNew_mergeNew_nil]
    · rw [List.filter_append, List.filter_append]
      exact hS.append (h.held name) (h'.held name)

theorem alike_map (hS : RowCongruence S) {f : α → α} (hname : ∀ x, nameOf (f x) = nameOf x)
    (hf : ∀ x, S [x] [f x]) (xs : List α) : Alike nameOf S xs (xs.map f) := by
  induction xs with
  | nil => exact hS.alike.refl []
  | cons x xs ih =>
    have hone : Alike nameOf S [x] [f x] := by
      refine ⟨?_, fun name => ?_⟩
      · rw [List.map_singleton, List.map_singleton, hname]
      · rw [List.filter_singleton, List.filter_singleton, hname]
        cases nameOf x == name
        · exact hS.refl []
        · exact hf x
    exact hS.alike.append hone ih

end RowCongruence

/-! ## Steps of collecting -/

section

variable (hname : ∀ x y, nameOf (absorb x y) = nameOf x)
include hname

/-- The names are those that there were, and a new one last. -/
theorem map_collect (x : α) (ys : List α) :
    (collect nameOf absorb x ys).map nameOf = addNew (ys.map nameOf) (nameOf x) := by
  induction ys with
  | nil => rfl
  | cons y ys ih =>
    rw [collect]
    split_ifs with hy
    · have hmem : nameOf x ∈ (y :: ys).map nameOf := by
        rw [List.map_cons, eq_of_beq hy]
        exact List.mem_cons_self
      rw [addNew, if_pos hmem, List.map_cons, List.map_cons, hname]
    · have hne : nameOf x ≠ nameOf y := fun h => hy (beq_iff_eq.2 h.symm)
      rw [List.map_cons, ih, List.map_cons, addNew, addNew]
      simp only [List.mem_cons, hne, false_or]
      split_ifs <;> rfl

theorem map_collectAll (collected xs : List α) :
    (collectAll nameOf absorb collected xs).map nameOf
      = mergeNew (collected.map nameOf) (xs.map nameOf) := by
  induction xs generalizing collected with
  | nil => rfl
  | cons x xs ih =>
    have hstep := ih (collect nameOf absorb x collected)
    rw [map_collect hname] at hstep
    exact hstep

/-- Where no name came up twice, an item is collected as if it stood behind the others. -/
theorem RowCongruence.alike_collect (hS : RowCongruence S) {x : α} (hys : (ys.map nameOf).Nodup)
    (habsorb : ∀ y ∈ ys, S [y, x] [absorb y x]) :
    Alike nameOf S (ys ++ [x]) (collect nameOf absorb x ys) := by
  refine ⟨?_, fun name => ?_⟩
  · have hadd : addNew (ys.map nameOf) (nameOf x) = mergeNew (ys.map nameOf) [nameOf x] := rfl
    rw [map_collect hname, hadd, mergeNew_mergeNew, List.map_append, List.map_singleton]
  · induction ys with
    | nil => exact hS.refl _
    | cons y ys ih =>
      obtain ⟨hy, hrest⟩ := List.nodup_cons.1 hys
      rw [collect]
      split_ifs with hxy
      · by_cases hn : nameOf x = name
        · -- The item that absorbs is the only one of its name.
          have hyn : nameOf y = name := (eq_of_beq hxy).trans hn
          have hnone : (ys.filter fun z => nameOf z == name) = [] := by
            refine List.filter_eq_nil_iff.2 fun z hz heq => hy ?_
            rw [hyn, ← eq_of_beq heq]
            exact List.mem_map_of_mem hz
          have hpair := habsorb y List.mem_cons_self
          simpa [List.filter_append, List.filter_cons, hname, hyn, hn, hnone] using hpair
        · have hyn : nameOf y ≠ name := fun h => hn ((eq_of_beq hxy).symm.trans h)
          have heq : ((y :: ys ++ [x]).filter fun z => nameOf z == name)
              = (absorb y x :: ys).filter fun z => nameOf z == name := by
            simp [hname, hyn, hn]
          rw [heq]
          exact hS.refl _
      · have hih := ih hrest fun z hz => habsorb z (List.mem_cons_of_mem y hz)
        rw [List.cons_append, List.filter_cons, List.filter_cons]
        split_ifs
        · exact hS.append (hS.refl [y]) hih
        · exact hih

end

theorem forall_mem_collect {P : α → Prop} (hP : ∀ x y, P x → P (absorb x y)) {x : α} (hx : P x)
    (hys : ∀ y ∈ ys, P y) : ∀ z ∈ collect nameOf absorb x ys, P z := by
  induction ys with
  | nil => exact List.forall_mem_singleton.2 hx
  | cons y ys ih =>
    obtain ⟨hy, hrest⟩ := List.forall_mem_cons.1 hys
    rw [collect]
    split_ifs
    · exact List.forall_mem_cons.2 ⟨hP y x hy, hrest⟩
    · exact List.forall_mem_cons.2 ⟨hy, ih hrest⟩

/-- Collecting makes no difference, if it makes none to the two items which one absorbs; that may
rest on what all items have. -/
theorem RowCongruence.alike_collectAll (hS : RowCongruence S) {P : α → Prop}
    (hname : ∀ x y, nameOf (absorb x y) = nameOf x) (hP : ∀ x y, P x → P (absorb x y))
    (habsorb : ∀ x y, P x → S [x, y] [absorb x y]) (hys : (ys.map nameOf).Nodup)
    (hPys : ∀ y ∈ ys, P y) (hPxs : ∀ x ∈ xs, P x) :
    Alike nameOf S (ys ++ xs) (collectAll nameOf absorb ys xs) := by
  induction xs generalizing ys with
  | nil =>
    rw [List.append_nil]
    exact hS.alike.refl ys
  | cons x xs ih =>
    obtain ⟨hx, hrest⟩ := List.forall_mem_cons.1 hPxs
    have hnodup : ((collect nameOf absorb x ys).map nameOf).Nodup := by
      rw [map_collect hname]
      exact nodup_mergeNew hys [nameOf x]
    have hstep : Alike nameOf S (ys ++ [x] ++ xs) (collect nameOf absorb x ys ++ xs) :=
      hS.alike.append (hS.alike_collect hname hys fun y hy => habsorb y x (hPys y hy))
        (hS.alike.refl xs)
    rw [List.append_assoc, List.singleton_append] at hstep
    exact hS.alike.trans hstep (ih hnodup (forall_mem_collect hP hx hPys) hrest)

end

/-! ## Declarations -/

/-- Schemas whose filters merge to the same. -/
def SameFilters (ss ss' : List SchemaEntry) : Prop :=
  FilterSet.mergeAll (ss.map (·.filters)) = FilterSet.mergeAll (ss'.map (·.filters))

theorem sameFilters_congruence : RowCongruence SameFilters where
  refl _ := rfl
  trans := Eq.trans
  append h h' := by
    rw [SameFilters, List.map_append, List.map_append, FilterSet.mergeAll_append,
      FilterSet.mergeAll_append, h, h']

theorem sameFilters_absorb (s s' : SchemaEntry) : SameFilters [s, s'] [s.absorb s'] :=
  FilterSet.merge_assoc _ _ _

theorem alike_collectSchemas (ss ss' : List SchemaEntry) (hss : (ss.map (·.name)).Nodup) :
    Alike (·.name) SameFilters (ss ++ ss') (collectSchemas ss ss') :=
  sameFilters_congruence.alike_collectAll (P := fun _ => True) (fun _ _ => rfl)
    (fun _ _ _ => trivial) (fun s s' _ => sameFilters_absorb s s') hss (fun _ _ => trivial)
    fun _ _ => trivial

theorem nodup_collectSchemas (ss ss' : List SchemaEntry) (hss : (ss.map (·.name)).Nodup) :
    ((collectSchemas ss ss').map (·.name)).Nodup := by
  have hname : ∀ s s' : SchemaEntry, (s.absorb s').name = s.name := fun _ _ => rfl
  rw [collectSchemas, map_collectAll hname]
  exact nodup_mergeNew hss _

/-- Catalogs whose filters merge to the same and whose schemas are alike. -/
structure SameCatalogs (cs cs' : List CatalogDeclaration) : Prop where
  filters : FilterSet.mergeAll (cs.map (·.filters)) = FilterSet.mergeAll (cs'.map (·.filters))
  schemas : Alike (·.name) SameFilters (cs.flatMap (·.schemas)) (cs'.flatMap (·.schemas))

theorem sameCatalogs_congruence : RowCongruence SameCatalogs where
  refl _ := ⟨rfl, sameFilters_congruence.alike.refl _⟩
  trans h h' := ⟨h.filters.trans h'.filters,
    sameFilters_congruence.alike.trans h.schemas h'.schemas⟩
  append h h' := by
    refine ⟨?_, ?_⟩
    · rw [List.map_append, List.map_append, FilterSet.mergeAll_append, FilterSet.mergeAll_append,
        h.filters, h'.filters]
    · rw [List.flatMap_append, List.flatMap_append]
      exact sameFilters_congruence.alike.append h.schemas h'.schemas

namespace CatalogDeclaration

/-- Whether no schema of a catalog has the name of another. -/
def SchemasApart (c : CatalogDeclaration) : Prop := (c.schemas.map (·.name)).Nodup

theorem schemasApart_collected (c : CatalogDeclaration) : c.collected.SchemasApart :=
  nodup_collectSchemas [] c.schemas List.nodup_nil

theorem SchemasApart.absorb {c : CatalogDeclaration} (hc : c.SchemasApart)
    (c' : CatalogDeclaration) : (c.absorb c').SchemasApart :=
  nodup_collectSchemas c.schemas c'.schemas hc

theorem sameCatalogs_collected (c : CatalogDeclaration) : SameCatalogs [c] [c.collected] := by
  refine ⟨rfl, ?_⟩
  rw [List.flatMap_singleton, List.flatMap_singleton]
  exact alike_collectSchemas [] c.schemas List.nodup_nil

theorem SchemasApart.sameCatalogs_absorb {c : CatalogDeclaration} (hc : c.SchemasApart)
    (c' : CatalogDeclaration) : SameCatalogs [c, c'] [c.absorb c'] := by
  refine ⟨FilterSet.merge_assoc _ _ _, ?_⟩
  rw [List.flatMap_cons, List.flatMap_singleton, List.flatMap_singleton]
  exact alike_collectSchemas c.schemas c'.schemas hc

end CatalogDeclaration

theorem alike_collectCatalogs (cs : List CatalogDeclaration) :
    Alike (·.name) SameCatalogs cs (collectCatalogs cs) := by
  have hapart : ∀ c ∈ cs.map (·.collected), c.SchemasApart := by
    intro c hc
    obtain ⟨d, -, rfl⟩ := List.mem_map.1 hc
    exact d.schemasApart_collected
  have hcollected : Alike (·.name) SameCatalogs cs (cs.map (·.collected)) :=
    sameCatalogs_congruence.alike_map (f := CatalogDeclaration.collected) (fun _ => rfl)
      CatalogDeclaration.sameCatalogs_collected cs
  have hall : Alike (·.name) SameCatalogs ([] ++ cs.map (·.collected)) (collectCatalogs cs) :=
    sameCatalogs_congruence.alike_collectAll (P := CatalogDeclaration.SchemasApart)
      (fun _ _ => rfl) (fun _ c' hc => hc.absorb c') (fun _ c' hc => hc.sameCatalogs_absorb c')
      List.nodup_nil (by simp) hapart
  exact sameCatalogs_congruence.alike.trans hcollected hall

/-! ## Entries -/

namespace Sieve

variable {catalogs catalogs' : List CatalogDeclaration} {schemas schemas' : List SchemaEntry}

theorem catalogEntry_eq_of_alike (root : FilterSet)
    (hcatalogs : Alike (·.name) SameCatalogs catalogs catalogs')
    (hschemas : Alike (·.name) SameFilters schemas schemas') (name : Option String) :
    catalogEntry root catalogs schemas name = catalogEntry root catalogs' schemas' name := by
  obtain ⟨hfilters, hown⟩ := hcatalogs.held name
  have hcandidates := sameFilters_congruence.alike.append hown hschemas
  simp only [catalogEntry]
  rw [hcandidates.entryNames_eq]
  congr 1
  refine List.map_congr_left fun schemaName _ => ?_
  have hheld := hcandidates.held schemaName
  rw [SameFilters] at hheld
  rw [FilterSet.mergeAll_append, FilterSet.mergeAll_append, hheld, hfilters,
    ← FilterSet.mergeAll_append, ← FilterSet.mergeAll_append]

/-- The sieve of a branch is that of the declarations as they stand. -/
theorem ofBranch_eq (b : Branch RuleNode) :
    ofBranch b
      = ofDeclarations (FilterSet.inside b) (declaredCatalogs b) (declaredSchemas b) := by
  have hcatalogs := alike_collectCatalogs (declaredCatalogs b)
  have hschemas := alike_collectSchemas [] (declaredSchemas b) List.nodup_nil
  have hentry := funext (catalogEntry_eq_of_alike (FilterSet.inside b) hcatalogs hschemas)
  rw [ofBranch, ofDeclarations, ofDeclarations, hcatalogs.entryNames_eq, ← hentry]
  rfl

end Sieve

end SchemaSieve
