import Mathlib.Tactic
import SchemaSieve.Proofs.Links

/-!
# Walks over a forest

A walk visits the first of the nodes that wait and puts the children of this node before the others
that wait (`Walk`). A node waits once for each visit of its parent, so a walk that starts at the
roots visits each node once (`Walk.perm_ids`). The order in which it visits them is `preorder`
(`walk_preorder`).
-/

namespace SchemaSieve

/-- The values that a partial function takes on a list belong, one by one, to where it has one. -/
theorem forall₂_filter_filterMap {α β : Type} (g : α → Option β) :
    ∀ xs : List α,
      List.Forall₂ (fun x y => g x = some y) (xs.filter fun x => (g x).isSome) (xs.filterMap g)
  | [] => .nil
  | x :: xs => by
    have ih := forall₂_filter_filterMap g xs
    rcases hx : g x with _ | y
    · rwa [List.filter_cons_of_neg (by simp [hx]), List.filterMap_cons_none hx]
    · rw [List.filter_cons_of_pos (by simp [hx]), List.filterMap_cons_some hx]
      exact .cons hx ih

namespace Forest

variable {α : Type} {f : Forest α} {waiting order : List Nat}

/-- `f.Walk waiting order`: from the nodes that wait, a walk visits nodes in an order. -/
inductive Walk (f : Forest α) : List Nat → List Nat → Prop where
  | done : Walk f [] []
  | visit {id : Nat} {waiting order : List Nat} (h : Walk f (f.children id ++ waiting) order) :
      Walk f (id :: waiting) (id :: order)

/-! ## Every node once -/

/-- A node is visited as often as it waits at the start and its parent is visited. -/
theorem Walk.count_eq (h : f.Walk waiting order) (hf : f.Linked) (a : Nat) :
    order.count a = waiting.count a + (f.parent? a).elim 0 order.count := by
  induction h with
  | done => cases f.parent? a <;> rfl
  | @visit id waiting order _ ih =>
    rw [List.count_append, hf.count_children] at ih
    rcases hp : f.parent? a with _ | p
    · simp only [hp, reduceCtorEq, if_false, Option.elim_none] at ih ⊢
      simp only [List.count_cons]
      omega
    · simp only [hp, Option.some.injEq, Option.elim_some] at ih ⊢
      simp only [List.count_cons, beq_iff_eq, eq_comm (a := p)] at ih ⊢
      omega

/-- A walk from the roots visits each node once. -/
theorem Walk.perm_ids (h : f.Walk f.roots order) (hf : f.Linked) : order.Perm f.ids := by
  have hids : ∀ a, f.ids.count a = if f.contains a then 1 else 0 := by
    intro a
    simp only [f.ids_nodup.count, mem_ids]
  have hroots : ∀ a, f.roots.count a
      = if f.contains a = true ∧ f.parent? a = none then 1 else 0 := by
    intro a
    exact (hf.under_nodup none).count.trans (by simp only [hf.mem_under])
  refine List.perm_iff_count.2 fun a => ?_
  rw [hids]
  -- On the way up: a node is visited as often as its parent, a root as often as it waits.
  induction a using Nat.strong_induction_on with
  | _ a ih =>
    rw [h.count_eq hf, hroots]
    rcases hp : f.parent? a with _ | p
    · simp
    · obtain ⟨hlt, hpc⟩ := hf.parent hp
      have hac := contains_of_parent? hp
      simp [ih p hlt, hpc, hac]

/-! ## The order of a walk -/

/-- A child has a larger number than its parent, so the bound is never met. -/
theorem subtreeWithin_congr (hf : f.Linked) :
    ∀ (m n id : Nat), id < f.size → f.size ≤ id + m → f.size ≤ id + n →
      f.subtreeWithin m id = f.subtreeWithin n id
  | 0, _, _, hid, hm, _ => by omega
  | _ + 1, 0, _, hid, _, hn => by omega
  | m + 1, n + 1, id, _, _, _ => by
    have hbelow : ∀ c ∈ f.children id, f.subtreeWithin m c = f.subtreeWithin n c := by
      intro c hc
      have hp := hf.mem_children.1 hc
      have hlt := (hf.parent hp).1
      have hsize := lt_size_of_contains (contains_of_parent? hp)
      exact subtreeWithin_congr hf m n c hsize (by omega) (by omega)
    simp only [subtreeWithin]
    rw [List.flatMap_congr hbelow]

/-- A node comes before what is below each of its children. -/
theorem subtree_eq (hf : f.Linked) {id : Nat} (hid : f.contains id = true) :
    f.subtree id = id :: (f.children id).flatMap f.subtree := by
  have hlt := lt_size_of_contains hid
  obtain ⟨n, hn⟩ : ∃ n, f.size = n + 1 := ⟨f.size - 1, by omega⟩
  have hbelow : ∀ c ∈ f.children id, f.subtreeWithin n c = f.subtree c := by
    intro c hc
    have hp := hf.mem_children.1 hc
    have hgt := (hf.parent hp).1
    have hsize := lt_size_of_contains (contains_of_parent? hp)
    exact subtreeWithin_congr hf n f.size c hsize (by omega) (by omega)
  rw [subtree, hn, subtreeWithin, List.flatMap_congr hbelow]

/-- What waits after a visit stands if what waited before does. -/
theorem Linked.contains_children_append (hf : f.Linked) (id : Nat)
    (h : ∀ c ∈ waiting, f.contains c = true) :
    ∀ c ∈ f.children id ++ waiting, f.contains c = true := by
  intro c hc
  rcases List.mem_append.1 hc with hc | hc
  · exact contains_of_parent? (hf.mem_children.1 hc)
  · exact h c hc

theorem walk_flatMap_subtree (hf : f.Linked) :
    ∀ waiting : List Nat, (∀ id ∈ waiting, f.contains id = true) →
      f.Walk waiting (waiting.flatMap f.subtree)
  | [], _ => .done
  | id :: waiting, h => by
    obtain ⟨hid, hwaiting⟩ := List.forall_mem_cons.1 h
    rw [List.flatMap_cons, subtree_eq hf hid, List.cons_append, ← List.flatMap_append]
    exact .visit (walk_flatMap_subtree hf _ (hf.contains_children_append id hwaiting))
termination_by waiting => (waiting.flatMap f.subtree).length
decreasing_by
  rw [List.flatMap_cons, subtree_eq hf (h id List.mem_cons_self), List.cons_append,
    ← List.flatMap_append, List.length_cons]
  exact Nat.lt_succ_self _

theorem walk_preorder (hf : f.Linked) : f.Walk f.roots f.preorder :=
  walk_flatMap_subtree hf f.roots fun _ hid => (hf.mem_roots.1 hid).1

theorem perm_preorder (hf : f.Linked) : f.preorder.Perm f.ids := (walk_preorder hf).perm_ids hf

theorem length_preorder_le (hf : f.Linked) : f.preorder.length ≤ f.size := by
  rw [(perm_preorder hf).length_eq]
  exact (List.length_filter_le _ _).trans_eq List.length_range

end Forest

end SchemaSieve
