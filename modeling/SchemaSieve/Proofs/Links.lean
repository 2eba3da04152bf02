import Mathlib.Tactic
import SchemaSieve.Proofs.Edits

/-!
# Links of edited rule trees

Planting enters a node in the list of its parent, removing takes it off there and clears what stands
below it, and both leave the two directions of the links in agreement (`Forest.Linked.plant`,
`Forest.Linked.remove`). So in a tree that edits made a node is once in the list of its parent and
in no other, every way up ends in the root and every node is met on the way down from it (`Linked`).
An edit hands out a number only for a node that it plants, and this is the next free one
(`handedOut?_cases`); so a run of edits counts on from where it started and no number is ever given
twice (`run_linked`).
-/

namespace SchemaSieve

namespace Forest

variable {α : Type} {f : Forest α}

/-- A node is once among the children of its parent, and not among those of others. -/
theorem Linked.count_children (hf : f.Linked) (p id : Nat) :
    (f.children p).count id = if f.parent? id = some p then 1 else 0 := by
  refine (hf.under_nodup (some p)).count.trans ?_
  simp only [hf.mem_under, and_iff_right_of_imp contains_of_parent?]

/-- The way up from a node goes from each node to its parent. -/
theorem isChain_ancestors (hf : f.Linked) (id : Nat) :
    (id :: f.ancestors id).IsChain fun a b => f.parent? a = some b := by
  induction id using Nat.strong_induction_on with
  | _ id ih =>
    rcases hp : f.parent? id with _ | p
    · rw [ancestors_of_parent?_eq_none hp]
      exact .singleton id
    · rw [ancestors_of_parent? hf hp]
      exact .cons_cons hp (ih p (hf.parent hp).1)

theorem pairwise_ancestors (hf : f.Linked) (id : Nat) :
    (id :: f.ancestors id).Pairwise (· > ·) :=
  List.isChain_iff_pairwise.1 ((isChain_ancestors hf id).imp fun _ _ hp => (hf.parent hp).1)

end Forest

namespace RuleTree

variable {t : RuleTree}

/-! ## Parents and children -/

/-- Whether the root stands at its number and alone at the top, each other node stands under one
node with a smaller number, and all ways up end in the root. -/
structure Linked (t : RuleTree) : Prop where
  root : t.node? rootId = some .root ∧ t.parent? rootId = none ∧ t.forest.roots = [rootId]
  parent : ∀ ⦃id : Nat⦄, t.forest.contains id = true → id ≠ rootId →
    ∃ p, t.parent? id = some p ∧ t.forest.contains p = true ∧ p < id ∧
      ∀ q, (t.children q).count id = if q = p then 1 else 0
  children : ∀ ⦃p id : Nat⦄, id ∈ t.children p →
    t.forest.contains p = true ∧ t.forest.contains id = true ∧ t.parent? id = some p
  ancestors : ∀ ⦃id : Nat⦄, t.forest.contains id = true → id ≠ rootId →
    ((id :: t.ancestors id).IsChain fun a b => t.parent? a = some b) ∧
      (t.ancestors id).Pairwise (· > ·) ∧ (t.ancestors id).getLast? = some rootId
  reachable : ∀ ⦃id : Nat⦄, t.forest.contains id = true →
    Relation.ReflTransGen (fun p c => c ∈ t.children p) rootId id

namespace WellFormed

/-- What the way up from a node ends in has no parent, so it is the root. -/
theorem getLast?_ancestors (ht : t.WellFormed) {id : Nat} (hid : t.forest.contains id = true)
    (hne : id ≠ rootId) : (t.ancestors id).getLast? = some rootId := by
  induction id using Nat.strong_induction_on with
  | _ id ih =>
    obtain ⟨p, hp⟩ := ht.under hid hne
    obtain ⟨hlt, hpc⟩ := ht.links.parent hp
    rw [ancestors, Forest.ancestors_of_parent? ht.links hp]
    by_cases hroot : p = rootId
    · subst hroot
      rw [Forest.ancestors_of_parent?_eq_none ht.parent?_root]
      rfl
    · have hlast := ih p hlt hpc hroot
      rw [List.getLast?_cons, show (t.forest.ancestors p).getLast? = some rootId from hlast]
      rfl

theorem reachable_root (ht : t.WellFormed) {id : Nat} (hid : t.forest.contains id = true) :
    Relation.ReflTransGen (fun p c => c ∈ t.children p) rootId id := by
  induction id using Nat.strong_induction_on with
  | _ id ih =>
    by_cases hroot : id = rootId
    · rw [hroot]
    · obtain ⟨p, hp⟩ := ht.under hid hroot
      obtain ⟨hlt, hpc⟩ := ht.links.parent hp
      exact (ih p hlt hpc).tail (ht.links.mem_children.2 hp)

theorem roots_eq (ht : t.WellFormed) : t.forest.roots = [rootId] := by
  refine List.perm_singleton.1 ?_
  refine (List.perm_ext_iff_of_nodup (ht.links.under_nodup none) (List.nodup_singleton _)).2 ?_
  intro id
  rw [ht.links.mem_under, List.mem_singleton]
  constructor
  · rintro ⟨hid, hp⟩
    by_contra hne
    obtain ⟨place, hplace⟩ := ht.under hid hne
    rw [parent?, hp] at hplace
    cases hplace
  · rintro rfl
    exact ⟨ht.contains_root, ht.parent?_root⟩

theorem linked (ht : t.WellFormed) : t.Linked where
  root := ⟨ht.node?_root, ht.parent?_root, ht.roots_eq⟩
  parent := by
    intro id hid hne
    obtain ⟨p, hp⟩ := ht.under hid hne
    obtain ⟨hlt, hpc⟩ := ht.links.parent hp
    refine ⟨p, hp, hpc, hlt, fun q => ?_⟩
    rw [children, ht.links.count_children, show t.forest.parent? id = some p from hp]
    simp only [Option.some.injEq, eq_comm]
  children := by
    intro p id hid
    have hp := ht.links.mem_children.1 hid
    exact ⟨(ht.links.parent hp).2, Forest.contains_of_parent? hp, hp⟩
  ancestors := fun id hid hne => ⟨Forest.isChain_ancestors ht.links id,
    (Forest.pairwise_ancestors ht.links id).of_cons, ht.getLast?_ancestors hid hne⟩
  reachable := fun _ => ht.reachable_root

end WellFormed

/-! ## Numbers -/

/-- The number that an edit hands out for a new node. Asking for a node that is found gives the
number it has. -/
def handedOut? (t : RuleTree) : Edit → Option Nat
  | .attach parent node => (t.attach parent node).toOption.map (·.1)
  | .insert parent node => (t.insert parent node).toOption.map (·.1)
  | .getOrInsert parent node =>
    if (t.findChild? parent node).isSome then none
    else (t.getOrInsert parent node).toOption.map (·.1)
  | .relabel _ _ | .remove _ => none
  | .adopt target live id polarity => (t.adopt target live id polarity).toOption.bind (·.1)

theorem nextId_plant (t : RuleTree) (parent : Nat) (node : RuleNode) :
    (t.plant parent node).nextId = t.nextId + 1 :=
  Forest.size_plant _ _ _

/-- An edit hands out the next number and plants a node there, or neither. -/
theorem handedOut?_cases (t : RuleTree) (e : Edit) :
    (t.handedOut? e = none ∧ (t.edited e).nextId = t.nextId ∧
        ∀ id, (t.edited e).forest.contains id = true → t.forest.contains id = true) ∨
      (t.handedOut? e = some t.nextId ∧ ∃ parent node, t.edited e = t.plant parent node) := by
  have hinsert : ∀ {place id : Nat} {rule : RuleNode} {t' : RuleTree},
      t.insert place rule = .ok (id, t') → id = t.nextId ∧ t' = t.plant place rule := by
    intro place id rule t' hi
    obtain ⟨-, -, -, -, rfl, rfl⟩ := insert_eq_ok hi
    exact ⟨rfl, rfl⟩
  cases e with
  | attach parent node =>
    simp only [handedOut?, edited]
    rcases hr : t.attach parent node with _ | ⟨id, t'⟩
    · exact .inl ⟨rfl, rfl, fun _ h => h⟩
    · obtain ⟨-, rfl, rfl⟩ := attach_eq_ok hr
      exact .inr ⟨rfl, parent, node, rfl⟩
  | insert parent node =>
    simp only [handedOut?, edited]
    rcases hr : t.insert parent node with _ | ⟨id, t'⟩
    · exact .inl ⟨rfl, rfl, fun _ h => h⟩
    · obtain ⟨rfl, rfl⟩ := hinsert hr
      exact .inr ⟨rfl, parent, node, rfl⟩
  | getOrInsert parent node =>
    simp only [handedOut?, edited, getOrInsert]
    rcases hf : t.findChild? parent node with _ | found
    · rcases hr : t.insert parent node with _ | ⟨id, t'⟩
      · exact .inl ⟨rfl, rfl, fun _ h => h⟩
      · obtain ⟨rfl, rfl⟩ := hinsert hr
        exact .inr ⟨rfl, parent, node, rfl⟩
    · exact .inl ⟨rfl, rfl, fun _ h => h⟩
  | relabel id label =>
    refine .inl ⟨rfl, ?_⟩
    simp only [edited]
    rcases hr : t.relabel id label with _ | t'
    · exact ⟨rfl, fun _ h => h⟩
    · obtain ⟨node, renamed, -, -, rfl⟩ := relabel_eq_ok hr
      refine ⟨Forest.size_replace _ _ _, fun i hi => ?_⟩
      exact (Forest.contains_replace t.forest id renamed i).symm.trans hi
  | remove id =>
    refine .inl ⟨rfl, ?_⟩
    simp only [edited]
    rcases hr : t.remove id with _ | ⟨node, t'⟩
    · exact ⟨rfl, fun _ h => h⟩
    · obtain ⟨-, -, rfl⟩ := remove_eq_ok hr
      exact ⟨Forest.size_remove _ _, fun i => Forest.contains_of_contains_remove⟩
  | adopt target live id polarity =>
    simp only [handedOut?, edited]
    rcases hr : t.adopt target live id polarity with _ | ⟨new, t'⟩
    · exact .inl ⟨rfl, rfl, fun _ h => h⟩
    · rcases adopt_eq_ok hr with ⟨rfl, rfl⟩ | ⟨place, rule, n, hi, rfl⟩
      · exact .inl ⟨rfl, rfl, fun _ h => h⟩
      · obtain ⟨rfl, rfl⟩ := hinsert hi
        exact .inr ⟨rfl, place, rule, rfl⟩

/-! ## Runs -/

/-- The tree that edits start from: one that was read from a document, or the empty one. -/
def start (source : Option RulesDocument) : RuleTree := source.elim empty ofDocument

/-- The tree that edits leave one after the other. -/
def run (t : RuleTree) (edits : List Edit) : RuleTree := edits.foldl edited t

/-- The numbers that a run of edits hands out, in their order. -/
def handedOut (t : RuleTree) : List Edit → List Nat
  | [] => []
  | e :: edits => (t.handedOut? e).toList ++ (t.edited e).handedOut edits

theorem reachable_run (ht : t.Reachable) (edits : List Edit) : (t.run edits).Reachable := by
  induction edits generalizing t with
  | nil => exact ht
  | cons e edits ih => exact ih (ht.edited e)

theorem reachable_start (source : Option RulesDocument) : (start source).Reachable := by
  rcases source with _ | d
  · exact .empty
  · exact .ofDocument d

/-- A run counts on from the next number, and what stands after it stood before or has a number that
was handed out. -/
theorem handedOut_run (edits : List Edit) :
    ∀ t : RuleTree, t.handedOut edits = List.range' t.nextId (t.handedOut edits).length ∧
      ∀ id, (t.run edits).forest.contains id = true →
        t.forest.contains id = true ∨ id ∈ t.handedOut edits := by
  -- On the edits, for whatever tree they start from: the first one counts on or changes no number.
  induction edits with
  | nil => exact fun t => ⟨rfl, fun id hid => .inl hid⟩
  | cons e edits ih =>
    intro t
    obtain ⟨hrange, hstands⟩ := ih (t.edited e)
    rcases handedOut?_cases t e with ⟨hnone, hnext, hkept⟩ | ⟨hsome, parent, node, he⟩
    · rw [handedOut, hnone, Option.toList_none, List.nil_append, ← hnext]
      exact ⟨hrange, fun id hid => (hstands id hid).imp_left (hkept id)⟩
    · rw [handedOut, hsome, Option.toList_some, List.singleton_append]
      refine ⟨?_, fun id hid => ?_⟩
      · rw [List.length_cons, List.range'_succ, ← nextId_plant t parent node, ← he, ← hrange]
      · rcases hstands id hid with h | h
        · rw [he, RuleTree.plant, Forest.contains_plant] at h
          rcases h with rfl | h
          · exact .inr List.mem_cons_self
          · exact .inl h
        · exact .inr (List.mem_cons_of_mem _ h)

/-- Whatever edits are made of a tree, with whatever arguments, parents and children stay linked,
and no number is handed out that an older node of the tree was ever given. -/
theorem run_linked (source : Option RulesDocument) (edits : List Edit) :
    ((start source).run edits).Linked ∧
      ((start source).ids ++ (start source).handedOut edits).Nodup ∧
        ((start source).run edits).ids ⊆ (start source).ids ++ (start source).handedOut edits := by
  obtain ⟨hrange, hstands⟩ := handedOut_run edits (start source)
  refine ⟨(reachable_run (reachable_start source) edits).wellFormed.linked, ?_, ?_⟩
  · refine List.nodup_append.2 ⟨Forest.ids_nodup _, ?_, ?_⟩
    · rw [hrange]
      exact List.nodup_range'
    · rintro a ha b hb rfl
      rw [hrange, List.mem_range'_1] at hb
      have hlt := Forest.lt_size_of_contains (Forest.mem_ids.1 ha)
      exact absurd hb.1 (Nat.not_le.2 hlt)
  · intro id hid
    rw [List.mem_append]
    exact (hstands id (Forest.mem_ids.1 hid)).imp_left Forest.mem_ids.2

end RuleTree

end SchemaSieve
