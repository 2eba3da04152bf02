import Mathlib.Tactic
import SchemaSieve.Proofs.Walks
import SchemaSieve.Reconcile.Annotation

/-!
# Where the walk of a reconciling ends

A node that waits brings the links above it along, and they are those of its ancestors
(`linksAbove_of_parent?`). So a visit says of the node what is said of it by its number, and puts it
in the slot of this number (`Done.step`). A tree whose links agree has each node visited once: then
nothing waits, and the nodes come in the order of their numbers, the findings in the order of the
walk (`Done.run`, `reconcile_eq`).
-/

namespace SchemaSieve

namespace LiveTree

variable {t : LiveTree}

/-! ## Links that are brought down -/

theorem linksAbove_of_parent?_eq_none {id : Nat} (hp : t.parent? id = none) :
    t.linksAbove id = [] := by
  rw [linksAbove, ancestors, Forest.ancestors_of_parent?_eq_none hp]
  rfl

/-- Below a node, its own link comes after those above it. -/
theorem linksAbove_of_parent? (hf : t.forest.Linked) {id p : Nat} (hp : t.parent? id = some p) :
    t.linksAbove id = t.linksAbove p ++ (t.link? p).toList := by
  rw [linksAbove, ancestors, Forest.ancestors_of_parent? hf hp, List.reverse_cons,
    List.filterMap_append]
  rcases hlink : t.link? p <;> simp [linksAbove, ancestors, hlink]

/-- What is said of a node that stands, by its number. -/
def annotation? (t : LiveTree) (s : Sieve) (shapes : List Shape) (id : Nat) :
    Option AnnotatedNode :=
  (t.node? id).map (t.annotate s shapes id)

/-- A node waiting to be visited with the links that are above it. -/
def visit (t : LiveTree) (id : Nat) : Visit := ⟨id, t.linksAbove id⟩

theorem map_roots_visit (hf : t.forest.Linked) : t.roots.map (⟨·, []⟩) = t.roots.map t.visit := by
  refine List.map_congr_left fun id hid => ?_
  rw [visit, linksAbove_of_parent?_eq_none (hf.mem_roots.1 hid).2]

theorem map_children_visit (hf : t.forest.Linked) (id : Nat) :
    (t.children id).map (⟨·, t.linksAbove id ++ (t.link? id).toList⟩)
      = (t.children id).map t.visit := by
  refine List.map_congr_left fun c hc => ?_
  rw [visit, linksAbove_of_parent? hf (hf.mem_children.1 hc)]

namespace Reconciling

variable {s : Sieve} {shapes : List Shape} {order waiting : List Nat} {r : Reconciling}

/-! ## One visit -/

/-- What holds when some nodes were visited: their slots are filled, the others are empty, and the
findings are theirs. -/
structure Done (t : LiveTree) (s : Sieve) (shapes : List Shape) (order : List Nat)
    (r : Reconciling) : Prop where
  size : r.slots.size = t.size
  slot : ∀ i < t.size, r.slots[i]? = some (if i ∈ order then t.annotation? s shapes i else none)
  findings : r.findings = order.filterMap (t.finding? s)

theorem Done.start (t : LiveTree) (s : Sieve) (shapes : List Shape) :
    Done t s shapes [] (.start t) where
  size := Array.size_replicate
  slot := fun i hi => by simp [Reconciling.start, hi]
  findings := rfl

/-- A visit fills the slot of its node, and then the children of the node wait before the others. -/
theorem step_eq (hf : t.forest.Linked) {id : Nat} (hid : t.forest.contains id = true)
    (hr : r.waiting = (id :: waiting).map t.visit) :
    r.step t s shapes = ⟨(t.children id ++ waiting).map t.visit,
      r.slots.setIfInBounds id (t.annotation? s shapes id),
      r.findings ++ (t.finding? s id).toList⟩ := by
  obtain ⟨node, hn⟩ := Forest.contains_iff_value?.1 hid
  have hnode : t.node? id = some node := hn
  rw [step, hr, List.map_append, ← map_children_visit hf, annotation?, hnode]
  simp only [List.map_cons, visit, hnode]
  rfl

theorem Done.step (h : Done t s shapes order r) (hf : t.forest.Linked) {id : Nat}
    (hid : t.forest.contains id = true) (hr : r.waiting = (id :: waiting).map t.visit) :
    Done t s shapes (order ++ [id]) (r.step t s shapes) := by
  rw [step_eq hf hid hr]
  refine ⟨Array.size_setIfInBounds.trans h.size, fun i hi => ?_, ?_⟩
  · rw [Array.getElem?_setIfInBounds, h.size, h.slot i hi]
    by_cases hne : id = i
    · subst hne
      simp [hi]
    · simp [hne, Ne.symm hne]
  · rw [List.filterMap_append, h.findings]
    rcases hfound : t.finding? s id <;> simp [hfound]

/-! ## The walk -/

/-- From nodes that wait, the nodes of a walk are visited in its order, and then nothing waits. -/
theorem Done.run (h : Done t s shapes order r) (hf : t.forest.Linked) {rest : List Nat}
    (hwalk : t.forest.Walk waiting rest) (hr : r.waiting = waiting.map t.visit)
    (hstands : ∀ id ∈ waiting, t.forest.contains id = true) {fuel : Nat}
    (hfuel : rest.length ≤ fuel) :
    Done t s shapes (order ++ rest) (run t s shapes fuel r) ∧
      (run t s shapes fuel r).waiting = [] := by
  induction hwalk generalizing order r fuel with
  | done =>
    have hidle : ∀ fuel, run t s shapes fuel r = r := by
      intro fuel
      induction fuel with
      | zero => rfl
      | succ fuel ih => rw [Reconciling.run, Reconciling.step, hr, List.map_nil, ih]
    rw [hidle, List.append_nil]
    exact ⟨h, hr⟩
  | @visit id waiting rest _ ih =>
    obtain ⟨n, rfl⟩ : ∃ n, fuel = n + 1 := ⟨fuel - 1, by simp at hfuel; omega⟩
    obtain ⟨hid, hwaiting⟩ := List.forall_mem_cons.1 hstands
    have hnext := hf.contains_children_append id hwaiting
    have hstep : (r.step t s shapes).waiting = (t.children id ++ waiting).map t.visit := by
      rw [step_eq hf hid hr]
    rw [Reconciling.run, List.append_cons]
    exact ih (h.step hf hid hr) hstep hnext (Nat.le_of_succ_le_succ hfuel)

/-- When all nodes were visited, what is said of each is in its slot. -/
theorem Done.toList_slots (h : Done t s shapes order r) (horder : order.Perm t.ids) :
    r.slots.toList = (List.range t.size).map (t.annotation? s shapes) := by
  -- Nothing stands at a number that was not visited.
  have hslot : ∀ i, (if i ∈ order then t.annotation? s shapes i else none)
      = t.annotation? s shapes i := by
    intro i
    rw [ite_eq_left_iff, horder.mem_iff, ids, Forest.mem_ids, Bool.not_eq_true]
    intro hi
    rw [annotation?, node?, Forest.value?_eq_none_iff.2 hi, Option.map_none]
  refine List.ext_getElem (by simp [h.size]) fun i hi _ => ?_
  have hget := h.slot i (by simpa [h.size] using hi)
  rw [hslot, Array.getElem?_eq_getElem (by simpa using hi), Option.some.injEq] at hget
  simpa using hget

/-- The filled slots are what is said of the nodes that stand, by number. -/
theorem Done.result (h : Done t s shapes order r) (horder : order.Perm t.ids) :
    r.result = ⟨t.ids.filterMap (t.annotation? s shapes), order.filterMap (t.finding? s)⟩ := by
  have hids : t.ids.filterMap (t.annotation? s shapes)
      = (List.range t.size).filterMap (t.annotation? s shapes) := by
    rw [ids, Forest.ids, List.filterMap_filter]
    refine List.filterMap_congr fun i _ => ?_
    split_ifs with hi
    · rfl
    · rw [annotation?, node?, Forest.value?_eq_none_iff.2 (Bool.not_eq_true _ ▸ hi),
        Option.map_none]
  rw [Reconciling.result, h.toList_slots horder, List.filterMap_map, h.findings, hids]
  rfl

/-- However many visits are allowed, each node is visited once and then nothing waits. -/
theorem done_preorder (hf : t.forest.Linked) (s : Sieve) (shapes : List Shape) {fuel : Nat}
    (hfuel : t.size ≤ fuel) :
    Done t s shapes t.forest.preorder (run t s shapes fuel (.start t)) ∧
      (run t s shapes fuel (.start t)).waiting = [] :=
  (Done.start t s shapes).run hf (Forest.walk_preorder hf) (map_roots_visit hf)
    (fun _ hid => (hf.mem_roots.1 hid).1) ((Forest.length_preorder_le hf).trans hfuel)

end Reconciling

/-- A reconciled tree by the numbers of the nodes and the order of the walk. -/
theorem reconcile_eq (hf : t.forest.Linked) (s : Sieve) (shapes : List Shape) :
    t.reconcile s shapes = ⟨t.ids.filterMap (t.annotation? s shapes),
      t.forest.preorder.filterMap (t.finding? s)⟩ :=
  (Reconciling.done_preorder hf s shapes le_rfl).1.result (Forest.perm_preorder hf)

end LiveTree

end SchemaSieve
