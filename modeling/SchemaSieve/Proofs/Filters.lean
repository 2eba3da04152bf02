import Mathlib.Tactic
import SchemaSieve.Filter.Compile

/-!
# What merged filters hold

A merge holds each pattern that one of its parts holds, once. Which names pass depends only on
which patterns are held (`accepts_iff_passes`), so that of filters merged from several places it is
enough to know what each place gives (`FilterSet.mem_patterns_mergeAll`). The includes of tables
alone are kept in their order, with repetitions (`FilterSet.includes_mergeAll`): the first one that
brings columns decides about them.
-/

namespace SchemaSieve

section

variable {α : Type} [DecidableEq α]

theorem mem_addNew {xs : List α} {x y : α} : y ∈ addNew xs x ↔ y ∈ xs ∨ y = x := by
  unfold addNew
  split_ifs with h
  · refine ⟨.inl, ?_⟩
    rintro (hy | rfl)
    · exact hy
    · exact h
  · simp

theorem mem_mergeNew {y : α} : ∀ {ys xs : List α}, y ∈ mergeNew xs ys ↔ y ∈ xs ∨ y ∈ ys
  | [], xs => by simp [mergeNew]
  | z :: ys, xs => by
    have ih : y ∈ mergeNew (addNew xs z) ys ↔ y ∈ addNew xs z ∨ y ∈ ys := mem_mergeNew
    rw [mergeNew, List.foldl_cons, ← mergeNew, ih, mem_addNew, List.mem_cons, or_assoc]

theorem mergeNew_append (xs ys zs : List α) :
    mergeNew xs (ys ++ zs) = mergeNew (mergeNew xs ys) zs := by
  rw [mergeNew, List.foldl_append]
  rfl

theorem nodup_mergeNew {xs : List α} (hxs : xs.Nodup) (ys : List α) : (mergeNew xs ys).Nodup := by
  refine List.foldlRecOn ys addNew hxs fun xs hxs y _ => ?_
  unfold addNew
  split_ifs with hy
  · exact hxs
  · refine List.nodup_append.2 ⟨hxs, List.nodup_singleton y, fun a ha b hb => ?_⟩
    rintro rfl
    exact hy (List.mem_singleton.1 hb ▸ ha)

/-- What was merged before is merged as if it stood in a row. -/
theorem mergeNew_mergeNew (xs ys zs : List α) :
    mergeNew xs (mergeNew ys zs) = mergeNew xs (ys ++ zs) := by
  induction zs using List.reverseRecOn with
  | nil => rw [List.append_nil]; rfl
  | append_singleton zs z ih =>
    have hlast : ∀ us vs : List α, mergeNew us (vs ++ [z]) = addNew (mergeNew us vs) z :=
      fun us vs => mergeNew_append us vs [z]
    rw [← List.append_assoc, hlast, hlast, ← ih]
    by_cases hz : z ∈ mergeNew ys zs
    · -- A value that was merged before is added to neither.
      have hright : z ∈ mergeNew xs (mergeNew ys zs) := mem_mergeNew.2 (.inr hz)
      rw [addNew, addNew, if_pos hz, if_pos hright]
    · rw [addNew, if_neg hz, mergeNew_append]
      rfl

theorem mergeNew_assoc (xs ys zs : List α) :
    mergeNew (mergeNew xs ys) zs = mergeNew xs (mergeNew ys zs) := by
  rw [mergeNew_mergeNew, mergeNew_append]

/-- Repetitions in what is merged make no difference. -/
theorem mergeNew_mergeNew_nil (xs ys : List α) :
    mergeNew xs (mergeNew [] ys) = mergeNew xs ys :=
  mergeNew_mergeNew xs [] ys

theorem mergeNew_flatMap_mergeNew {β : Type} (f : β → List α) :
    ∀ (l : List β) (xs : List α),
      mergeNew xs (l.flatMap fun b => mergeNew [] (f b)) = mergeNew xs (l.flatMap f)
  | [], _ => rfl
  | b :: l, xs => by
    rw [List.flatMap_cons, List.flatMap_cons, mergeNew_append, mergeNew_append,
      mergeNew_mergeNew_nil, mergeNew_flatMap_mergeNew f l]

/-- Merging into the empty list keeps the first of the values that are equal. -/
theorem mergeNew_nil (xs : List α) : mergeNew [] xs = xs.eraseDups := by
  induction xs using List.reverseRecOn with
  | nil => simp [mergeNew]
  | append_singleton xs x ih =>
    have hmem : x ∈ xs.eraseDups ↔ x ∈ xs := List.mem_eraseDups
    rw [mergeNew_append, ih, List.eraseDups_append]
    by_cases hx : x ∈ xs <;>
      simp [mergeNew, addNew, List.removeAll, List.eraseDups_cons, hx, hmem]

end

/-- Whether a name passes patterns that include names and patterns that exclude them: some include
matches it, or there is none, and no exclude does. -/
def Passes (included excluded : NamePattern → Prop) (name : String) : Prop :=
  ((∀ p, ¬ included p) ∨ ∃ p, included p ∧ p.accepts name = true) ∧
    ∀ p, excluded p → p.accepts name = false

theorem Passes.congr {included included' excluded excluded' : NamePattern → Prop} {name : String}
    (hi : ∀ p, included p ↔ included' p) (he : ∀ p, excluded p ↔ excluded' p) :
    Passes included excluded name ↔ Passes included' excluded' name := by
  simp only [Passes, hi, he]

/-- Two lists of patterns let a name pass as the patterns in them do. -/
theorem passes_mem_iff {included excluded : List NamePattern} {name : String} :
    Passes (· ∈ included) (· ∈ excluded) name ↔
      ((included.isEmpty || included.any (·.accepts name)) &&
        !excluded.any (·.accepts name)) = true := by
  rw [Passes, Bool.and_eq_true, Bool.or_eq_true, List.isEmpty_iff, List.any_eq_true,
    Bool.not_eq_true', List.any_eq_false, List.eq_nil_iff_forall_not_mem]
  simp only [Bool.not_eq_true]

namespace NameFilter

/-- The patterns of one polarity. -/
def side (f : NameFilter) : Polarity → List NamePattern
  | .includes => f.includes
  | .excludes => f.excludes

theorem accepts_iff_passes {f : NameFilter} {name : String} :
    f.accepts name = true ↔ Passes (· ∈ f.side .includes) (· ∈ f.side .excludes) name :=
  passes_mem_iff.symm

theorem mem_side_merge {f g : NameFilter} {polarity : Polarity} {p : NamePattern} :
    p ∈ (f.merge g).side polarity ↔ p ∈ f.side polarity ∨ p ∈ g.side polarity := by
  cases polarity <;> exact mem_mergeNew

theorem isEmpty_iff {f : NameFilter} :
    f.isEmpty = true ↔ ∀ polarity p, p ∉ f.side polarity := by
  rw [isEmpty, Bool.and_eq_true, List.isEmpty_iff, List.isEmpty_iff,
    List.eq_nil_iff_forall_not_mem, List.eq_nil_iff_forall_not_mem]
  constructor
  · rintro ⟨hi, he⟩ (_ | _) p
    · exact hi p
    · exact he p
  · intro h
    exact ⟨h .includes, h .excludes⟩

end NameFilter

namespace FilterSet

/-- The patterns about one subject and of one polarity; of a table include, its own pattern. -/
def patterns (s : FilterSet) : RuleSubject → Polarity → List NamePattern
  | .table, .includes => s.tables.includes.map (·.pattern)
  | .table, .excludes => s.tables.excludes
  | .column, polarity => s.tables.columns.side polarity
  | .procedure, polarity => s.procedures.side polarity

theorem accepts_tables_iff {s : FilterSet} {name : String} :
    s.tables.accepts name = true ↔
      Passes (· ∈ s.patterns .table .includes) (· ∈ s.patterns .table .excludes) name := by
  simp only [patterns]
  rw [passes_mem_iff, TableFilter.accepts, List.isEmpty_map, List.any_map]
  rfl

theorem mem_patterns_empty {subject : RuleSubject} {polarity : Polarity} {p : NamePattern} :
    p ∉ empty.patterns subject polarity := by
  cases subject <;> cases polarity <;> simp [patterns, empty, NameFilter.side]

theorem merge_empty (a : FilterSet) : a.merge empty = a := by
  simp [merge, empty, TableFilter.merge, NameFilter.merge, mergeNew]

theorem mem_patterns_merge {a b : FilterSet} {subject : RuleSubject} {polarity : Polarity}
    {p : NamePattern} :
    p ∈ (a.merge b).patterns subject polarity ↔
      p ∈ a.patterns subject polarity ∨ p ∈ b.patterns subject polarity := by
  cases subject with
  | table =>
    cases polarity with
    | includes => simp only [patterns, merge, TableFilter.merge, List.map_append, List.mem_append]
    | excludes => exact mem_mergeNew
  | column => exact NameFilter.mem_side_merge
  | procedure => exact NameFilter.mem_side_merge

theorem mem_patterns_mergeAll {sets : List FilterSet} {subject : RuleSubject}
    {polarity : Polarity} {p : NamePattern} :
    p ∈ (mergeAll sets).patterns subject polarity ↔
      ∃ s ∈ sets, p ∈ s.patterns subject polarity := by
  have hfold : ∀ (sets : List FilterSet) (a : FilterSet),
      p ∈ (sets.foldl merge a).patterns subject polarity ↔
        p ∈ a.patterns subject polarity ∨ ∃ s ∈ sets, p ∈ s.patterns subject polarity := by
    intro sets
    induction sets with
    | nil => intro a; simp
    | cons b sets ih =>
      intro a
      rw [List.foldl_cons, ih, mem_patterns_merge, or_assoc, List.exists_mem_cons_iff]
  rw [mergeAll, hfold, or_iff_right mem_patterns_empty]

theorem includes_mergeAll (sets : List FilterSet) :
    (mergeAll sets).tables.includes = sets.flatMap (·.tables.includes) := by
  have hfold : ∀ (sets : List FilterSet) (a : FilterSet),
      (sets.foldl merge a).tables.includes
        = a.tables.includes ++ sets.flatMap (·.tables.includes) := by
    intro sets
    induction sets with
    | nil => intro a; simp
    | cons b sets ih =>
      intro a
      rw [List.foldl_cons, ih, List.flatMap_cons, ← List.append_assoc]
      rfl
  rw [mergeAll, hfold]
  rfl

/-- A rule gives its pattern, if that is valid, to its own form. -/
theorem patterns_ofNode_rule (s : RuleSubject) (q : Polarity) (source : String)
    (subject : RuleSubject) (polarity : Polarity) :
    (ofNode (.rule s q source)).patterns subject polarity
      = if s = subject ∧ q = polarity then (validPattern? source).toList else [] := by
  rcases hv : validPattern? source with _ | p
  · cases subject <;> cases polarity <;>
      simp [ofNode, hv, patterns, empty, NameFilter.side]
  · cases s <;> cases q <;> cases subject <;> cases polarity <;>
      simp [ofNode, hv, ofRule, patterns, NameFilter.side, NameFilter.add, NameFilter.empty, addNew]

/-- What a node gives by itself is the pattern of a valid rule. -/
theorem mem_patterns_ofNode {node : RuleNode} {subject : RuleSubject} {polarity : Polarity}
    {p : NamePattern} :
    p ∈ (ofNode node).patterns subject polarity ↔
      ∃ source, node = .rule subject polarity source ∧ validPattern? source = some p := by
  rcases node with _ | _ | _ | ⟨s, q, source⟩
  · simp [ofNode, mem_patterns_empty]
  · simp [ofNode, mem_patterns_empty]
  · simp [ofNode, mem_patterns_empty]
  · rw [patterns_ofNode_rule]
    split_ifs with hsq
    · obtain ⟨rfl, rfl⟩ := hsq
      simp
    · simp only [List.not_mem_nil, false_iff, not_exists, not_and]
      rintro source' heq
      cases heq
      exact absurd ⟨rfl, rfl⟩ hsq

/-- The rules below a rule add no pattern of their own. -/
theorem patterns_ofBranch (b : Branch RuleNode) (subject : RuleSubject) (polarity : Polarity) :
    (ofBranch b).patterns subject polarity = (ofNode b.value).patterns subject polarity := by
  unfold ofBranch
  split
  · rename_i source hb
    rw [hb, ofNode]
    rcases validPattern? source with _ | v
    · rfl
    · cases subject <;> cases polarity <;> rfl
  · rfl

end FilterSet

end SchemaSieve
