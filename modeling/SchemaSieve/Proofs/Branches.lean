import Mathlib.Tactic
import SchemaSieve.Proofs.Filters

/-!
# Compiling branch by branch

What compiling makes of a branch is said here by the branches below it. The filters of a namespace
are known by its includes of tables, in their order, and by the patterns of each other form, each
once (`FilterSet.eq_of_patterns`, `FilterSet.patterns_mergeAll`); the findings are those of the node
and then those of the children that may stand there (`findingsFrom_eq`).
-/

namespace SchemaSieve

namespace Branch

variable {α : Type} {P : Branch α → Prop}

mutual

/-- What a branch has if all branches directly below it have it, every branch has. -/
@[elab_as_elim]
theorem induction (mk : ∀ (v : α) (cs : List (Branch α)), (∀ c ∈ cs, P c) → P (.mk v cs)) :
    ∀ b : Branch α, P b
  | .mk v cs => mk v cs (inductionAll mk cs)

theorem inductionAll (mk : ∀ (v : α) (cs : List (Branch α)), (∀ c ∈ cs, P c) → P (.mk v cs)) :
    ∀ cs : List (Branch α), ∀ c ∈ cs, P c
  | [] => fun _ hc => absurd hc List.not_mem_nil
  | c :: cs => List.forall_mem_cons.2 ⟨induction mk c, inductionAll mk cs⟩

end

@[simp] theorem mk_value_children (b : Branch α) : .mk b.value b.children = b := by
  cases b
  rfl

end Branch

/-! ## Findings -/

theorem findingsBelow_eq (path : List RuleNode) (node : RuleNode) :
    ∀ cs : List (Branch RuleNode), findingsBelow path node cs
      = (cs.filter fun c => node.canContain c.value).flatMap
          fun c => findingsFrom (path ++ [c.value]) c
  | [] => by simp [findingsBelow]
  | c :: cs => by
    rw [findingsBelow, findingsBelow_eq path node cs, List.filter_cons]
    split_ifs <;> simp

theorem findingsFrom_eq (path : List RuleNode) (b : Branch RuleNode) :
    findingsFrom path b = patternFindings path b.value ++
      misplacedFindings path b.value b.children ++
        b.legalChildren.flatMap fun c => findingsFrom (path ++ [c.value]) c := by
  obtain ⟨node, cs⟩ := b
  rw [findingsFrom, findingsBelow_eq]
  rfl

/-- Nothing is wrong with the pattern of a node exactly if it has none or a valid one. -/
theorem patternFindings_eq_nil_iff {path : List RuleNode} {node : RuleNode} :
    patternFindings path node = [] ↔ ∀ source ∈ node.pattern?, (validPattern? source).isSome := by
  rw [patternFindings]
  rcases node.pattern? with _ | source
  · simp
  · simp only [Option.mem_some_iff, forall_eq', validPattern?]
    split_ifs
    · simp
    · rcases NamePattern.ofSource source with e | p <;> simp [Except.toOption]

/-! ## Filters -/

namespace FilterSet

/-- A filter set is known by its includes of tables and by its other patterns. -/
theorem eq_of_patterns {a b : FilterSet} (hincludes : a.tables.includes = b.tables.includes)
    (hpatterns : ∀ subject polarity, ¬ (subject = .table ∧ polarity = .includes) →
      a.patterns subject polarity = b.patterns subject polarity) : a = b := by
  obtain ⟨⟨ai, ae, ⟨aci, ace⟩⟩, ⟨api, ape⟩⟩ := a
  obtain ⟨⟨bi, be, ⟨bci, bce⟩⟩, ⟨bpi, bpe⟩⟩ := b
  obtain rfl : ai = bi := hincludes
  obtain rfl : ae = be := hpatterns .table .excludes (by simp)
  obtain rfl : aci = bci := hpatterns .column .includes (by simp)
  obtain rfl : ace = bce := hpatterns .column .excludes (by simp)
  obtain rfl : api = bpi := hpatterns .procedure .includes (by simp)
  obtain rfl : ape = bpe := hpatterns .procedure .excludes (by simp)
  rfl

variable {subject : RuleSubject} {polarity : Polarity}

theorem patterns_merge (h : ¬ (subject = .table ∧ polarity = .includes)) (a b : FilterSet) :
    (a.merge b).patterns subject polarity
      = mergeNew (a.patterns subject polarity) (b.patterns subject polarity) := by
  cases subject <;> cases polarity <;> first | rfl | exact absurd ⟨rfl, rfl⟩ h

theorem merge_assoc (a b c : FilterSet) : (a.merge b).merge c = a.merge (b.merge c) := by
  refine eq_of_patterns (List.append_assoc _ _ _) fun subject polarity h => ?_
  simp only [patterns_merge h, mergeNew_assoc]

instance : Std.Associative merge := ⟨merge_assoc⟩

/-- Filters that are merged in groups come to the same. -/
theorem mergeAll_append (sets sets' : List FilterSet) :
    mergeAll (sets ++ sets') = (mergeAll sets).merge (mergeAll sets') := by
  rw [mergeAll, List.foldl_append, ← mergeAll, ← merge_empty (mergeAll sets), List.foldl_assoc,
    merge_empty]
  rfl

/-- A merge holds the patterns of its parts in their order, each once. -/
theorem patterns_mergeAll (h : ¬ (subject = .table ∧ polarity = .includes))
    (sets : List FilterSet) :
    (mergeAll sets).patterns subject polarity
      = mergeNew [] (sets.flatMap (·.patterns subject polarity)) := by
  have hfold : ∀ (sets : List FilterSet) (a : FilterSet),
      (sets.foldl merge a).patterns subject polarity
        = mergeNew (a.patterns subject polarity) (sets.flatMap (·.patterns subject polarity)) := by
    intro sets
    induction sets with
    | nil => intro a; rfl
    | cons b sets ih =>
      intro a
      rw [List.foldl_cons, ih, patterns_merge h, List.flatMap_cons, mergeNew_append]
  have hempty : empty.patterns subject polarity = [] := by
    cases subject <;> cases polarity <;> rfl
  rw [mergeAll, hfold, hempty]

/-- What is merged is known by the includes and the patterns of the parts together. -/
theorem mergeAll_congr {sets sets' : List FilterSet}
    (hincludes : sets.flatMap (·.tables.includes) = sets'.flatMap (·.tables.includes))
    (hpatterns : ∀ subject polarity, ¬ (subject = .table ∧ polarity = .includes) →
      sets.flatMap (·.patterns subject polarity) = sets'.flatMap (·.patterns subject polarity)) :
    mergeAll sets = mergeAll sets' := by
  refine eq_of_patterns ?_ fun subject polarity h => ?_
  · rw [includes_mergeAll, includes_mergeAll, hincludes]
  · rw [patterns_mergeAll h, patterns_mergeAll h, hpatterns subject polarity h]

end FilterSet

end SchemaSieve
