import Mathlib.Tactic
import SchemaSieve.Proofs.Forest

/-!
# What removing takes

Removing a node empties the cells of its subtree with a stack. What is left below the node while
this runs waits itself or stands under a node that is left, so when none waits nothing is left
(`Clearing`). So it comes to the same as `cut`, which says of each cell by itself what becomes of it
(`remove_eq_cut`), and what is left is linked (`Linked.cut`).
-/

namespace SchemaSieve

namespace Forest

variable {α : Type} {f g h : Forest α} {top id i : Nat}

/-! ## Cutting -/

/-- A forest without a node and all that stands below it. -/
def cut (f : Forest α) (top : Nat) : Forest α where
  cells := f.cells.mapIdx fun id cell =>
    if f.within top id then none
    else cell.map fun c => { c with children := c.children.filter (· != top) }
  roots := f.roots.filter (· != top)

@[simp] theorem size_cut (f : Forest α) (top : Nat) : (f.cut top).size = f.size := by
  simp [cut, size]

theorem cell?_cut (f : Forest α) (top i : Nat) :
    (f.cut top).cell? i = if f.within top i then none
      else (f.cell? i).map fun c => { c with children := c.children.filter (· != top) } := by
  simp only [cell?, cut, Array.getElem?_mapIdx]
  rcases f.cells[i]? with _ | c <;> simp

theorem slot?_cut (f : Forest α) (top i : Nat) :
    (f.cut top).slot? i = if f.within top i then none else f.slot? i := by
  rw [slot?, cell?_cut]
  split_ifs
  · rfl
  · rw [Option.map_map]
    rfl

theorem under_cut (f : Forest α) (top : Nat) (place : Option Nat) :
    (f.cut top).under place
      = if place.any (f.within top) then [] else (f.under place).filter (· != top) := by
  rcases place with _ | p
  · rfl
  · simp only [under, Option.elim_some, children, cell?_cut, Option.any_some]
    split_ifs
    · rfl
    · rcases f.cell? p with _ | c <;> rfl

theorem within_iff : f.within top id = true ↔ id = top ∨ top ∈ f.ancestors id := by
  simp [within]

theorem within_eq_false_iff : f.within top id = false ↔ id ≠ top ∧ top ∉ f.ancestors id := by
  rw [Bool.eq_false_iff, ne_eq, within_iff, not_or]

theorem contains_cut :
    (f.cut top).contains i = true ↔ f.within top i = false ∧ f.contains i = true := by
  rw [contains, contains, slot?_cut]
  cases f.within top i <;> simp

theorem parent?_cut (h : f.within top i = false) : (f.cut top).parent? i = f.parent? i := by
  rw [parent?, parent?, slot?_cut, h]
  rfl

theorem value?_cut (h : f.within top i = false) : (f.cut top).value? i = f.value? i := by
  rw [value?, value?, slot?_cut, h]
  rfl

theorem within_iff_of_parent? (hf : f.Linked) {p : Nat} (hp : f.parent? id = some p) :
    f.within top id = true ↔ id = top ∨ f.within top p = true := by
  rw [within_iff, within_iff, ancestors_of_parent? hf hp, List.mem_cons, eq_comm (a := top)]

theorem within_eq_false_iff_of_parent? (hf : f.Linked) {p : Nat} (hp : f.parent? id = some p) :
    f.within top id = false ↔ id ≠ top ∧ f.within top p = false := by
  rw [Bool.eq_false_iff, ne_eq, within_iff_of_parent? hf hp, not_or, Bool.not_eq_true]

/-- A node stands outside its own subtree's lists: its parent is not below it. -/
theorem Linked.within_parent? (hf : f.Linked) {p : Nat} (hp : f.parent? top = some p) :
    f.within top p = false := by
  have hlt := (hf.parent hp).1
  refine within_eq_false_iff.2 ⟨hlt.ne, fun hmem => ?_⟩
  exact absurd (hf.ancestor p top hmem).1 (Nat.lt_asymm hlt)

/-- What stands under a cut node is cut with it, so the parent of a node that is left is left. -/
theorem Linked.cut (hf : f.Linked) (top : Nat) : (f.cut top).Linked where
  parent := by
    intro id p h
    have hw : f.within top id = false := (contains_cut.1 (contains_of_parent? h)).1
    rw [parent?_cut hw] at h
    obtain ⟨hlt, hc⟩ := hf.parent h
    exact ⟨hlt, contains_cut.2 ⟨((within_eq_false_iff_of_parent? hf h).1 hw).2, hc⟩⟩
  under := by
    intro place
    rw [under_cut, ids, size_cut, List.filter_filter]
    split_ifs with hplace
    · refine (List.filter_eq_nil_iff.2 fun i _ hi => ?_).symm
      obtain ⟨hparent, hc⟩ := Bool.and_eq_true_iff.1 hi
      obtain ⟨p, rfl, hp⟩ := (Option.any_eq_true _ _).1 hplace
      have hout := (contains_cut.1 hc).1
      rw [parent?_cut hout, beq_iff_eq] at hparent
      rw [((within_eq_false_iff_of_parent? hf hparent).1 hout).2] at hp
      cases hp
    · rw [hf.under, ids, List.filter_filter, List.filter_filter]
      refine List.filter_congr fun i _ => ?_
      rw [Bool.eq_iff_iff]
      simp only [Bool.and_eq_true, bne_iff_ne, beq_iff_eq, contains_cut]
      constructor
      · rintro ⟨⟨hne, hparent⟩, hc⟩
        have hout : f.within top i = false := by
          rcases hp : f.parent? i with _ | p
          · simp [within_eq_false_iff, hne, ancestors_of_parent?_eq_none hp]
          · rw [within_eq_false_iff_of_parent? hf hp]
            refine ⟨hne, ?_⟩
            rwa [← hparent, hp, Option.any_some, Bool.not_eq_true] at hplace
        exact ⟨(parent?_cut hout).trans hparent, hout, hc⟩
      · rintro ⟨hparent, hout, hc⟩
        exact ⟨⟨(within_eq_false_iff.1 hout).1, (parent?_cut hout).symm.trans hparent⟩, hc⟩

/-! ## Clearing -/

theorem children_unlink (f : Forest α) (id i : Nat) :
    (f.unlink id).children i
      = if f.parent? id = some i then (f.children i).filter (· != id) else f.children i := by
  simp only [children, cell?_unlink]
  rcases f.cell? i with _ | c
  · split_ifs <;> rfl
  · rfl

theorem roots_unlink (f : Forest α) (id : Nat) :
    (f.unlink id).roots
      = if f.parent? id = none then f.roots.filter (· != id) else f.roots := by
  unfold unlink
  split
  · rename_i hp
    rw [if_pos hp]
  · rename_i p hp
    rw [if_neg (by simp [hp])]

/-- Below a node, nothing is missing from a list of children while the node itself is off the list
it stood in. -/
theorem Linked.mem_children_unlink (hf : f.Linked) (hbelow : f.within top id = true) :
    i ∈ (f.unlink top).children id ↔ f.parent? i = some id := by
  have hne : f.parent? top ≠ some id := by
    intro hp
    rw [hf.within_parent? hp] at hbelow
    cases hbelow
  rw [children_unlink, if_neg hne, hf.mem_children]

/-- What holds of a forest `f` whose node `top` was taken off its list, while it is cleared below
the node: nothing else is missing or waits on the stack, and what is left below the node waits or
stands under a node that is left. -/
structure Clearing (f : Forest α) (top : Nat) (g : Forest α) (stack : List Nat) : Prop where
  size : g.size = f.size
  roots : g.roots = (f.unlink top).roots
  cell : ∀ i, g.contains i = true ∨ f.within top i = false →
    g.cell? i = (f.unlink top).cell? i
  below : ∀ i ∈ stack, f.within top i = true
  left : ∀ i, g.contains i = true → f.within top i = true →
    i ∈ stack ∨ ∃ p, f.parent? i = some p ∧ f.within top p = true ∧ g.contains p = true

namespace Clearing

variable {stack : List Nat}

theorem init (hf : f.Linked) (top : Nat) : f.Clearing top (f.unlink top) [top] where
  size := size_unlink f top
  roots := rfl
  cell := fun _ _ => rfl
  below := fun i hi => within_iff.2 (.inl (List.mem_singleton.1 hi))
  left := by
    intro i hi hbelow
    by_cases htop : i = top
    · exact .inl (List.mem_singleton.2 htop)
    · rcases hp : f.parent? i with _ | p
      · simp [within_iff, htop, ancestors_of_parent?_eq_none hp] at hbelow
      · have hpbelow := ((within_iff_of_parent? hf hp).1 hbelow).resolve_left htop
        refine .inr ⟨p, rfl, hpbelow, ?_⟩
        rw [contains, slot?_unlink]
        exact (hf.parent hp).2

theorem skip (h : f.Clearing top g (id :: stack)) (hid : ¬ g.contains id = true) :
    f.Clearing top g stack where
  size := h.size
  roots := h.roots
  cell := h.cell
  below := fun i hi => h.below i (List.mem_cons_of_mem _ hi)
  left := by
    intro i hi hbelow
    refine (h.left i hi hbelow).imp_left fun hmem => ?_
    rcases List.mem_cons.1 hmem with rfl | hmem
    · exact absurd hi hid
    · exact hmem

/-- The list that a node brings to the stack holds what stands under the node. -/
theorem mem_children (hf : f.Linked) (h : f.Clearing top g (id :: stack))
    (hid : g.contains id = true) : i ∈ g.children id ↔ f.parent? i = some id := by
  rw [children, h.cell id (.inl hid), ← children]
  exact hf.mem_children_unlink (h.below id List.mem_cons_self)

theorem take (hf : f.Linked) (h : f.Clearing top g (id :: stack)) (hid : g.contains id = true) :
    f.Clearing top (g.take id) ((g.children id).reverse ++ stack) where
  size := (size_take g id).trans h.size
  roots := h.roots
  cell := by
    intro i hi
    have hne : i ≠ id := by
      rintro rfl
      rcases hi with hi | hi
      · simp [contains_take] at hi
      · rw [h.below i List.mem_cons_self] at hi
        cases hi
    rw [cell?_take, if_neg hne]
    refine h.cell i (hi.imp_left fun hi => ?_)
    rw [contains_take, Bool.and_eq_true] at hi
    exact hi.2
  below := by
    intro i hi
    rcases List.mem_append.1 hi with hi | hi
    · have hparent := (h.mem_children hf hid).1 (List.mem_reverse.1 hi)
      exact (within_iff_of_parent? hf hparent).2 (.inr (h.below id List.mem_cons_self))
    · exact h.below i (List.mem_cons_of_mem _ hi)
  left := by
    intro i hi hbelow
    rw [contains_take, Bool.and_eq_true, bne_iff_ne] at hi
    rcases h.left i hi.2 hbelow with hmem | ⟨p, hp, hpbelow, hpc⟩
    · exact .inl (List.mem_append_right _ ((List.mem_cons.1 hmem).resolve_left hi.1))
    · by_cases hpid : p = id
      · subst hpid
        have hmem := (h.mem_children hf hid).2 hp
        exact .inl (List.mem_append_left _ (List.mem_reverse.2 hmem))
      · refine .inr ⟨p, hp, hpbelow, ?_⟩
        rw [contains_take, hpc, Bool.and_true, bne_iff_ne]
        exact hpid

/-- When nothing waits, nothing is left: of the nodes that are left below the top, none is the
first. -/
theorem eq_cut (hf : f.Linked) (h : f.Clearing top g []) : g = f.cut top := by
  have hgone : ∀ i, f.within top i = true → g.contains i = false := by
    intro i
    induction i using Nat.strong_induction_on with
    | _ i ih =>
      intro hbelow
      by_contra hi
      -- Nothing waits, so its parent is left too and is below the top as well.
      obtain hmem | ⟨p, hp, hpbelow, hpc⟩ := h.left i (Bool.not_eq_false _ ▸ hi) hbelow
      · cases hmem
      · rw [ih p (hf.parent hp).1 hpbelow] at hpc
        cases hpc
  have houtside : ∀ {place}, f.parent? top ≠ place →
      (f.under place).filter (· != top) = f.under place := by
    intro place hne
    refine List.filter_eq_self.2 fun c hc => bne_iff_ne.2 ?_
    rintro rfl
    exact hne (hf.mem_under.1 hc).2
  refine ext_cell? (h.size.trans (size_cut f top).symm) ?_ fun i => ?_
  · rw [h.roots, roots_unlink]
    split_ifs with hp
    · rfl
    · exact (houtside hp).symm
  · cases hbelow : f.within top i
    · rw [cell?_cut, hbelow, if_neg Bool.false_ne_true, h.cell i (.inr hbelow), cell?_unlink]
      rcases he : f.cell? i with _ | c
      · rfl
      · have hchildren : f.children i = c.children := by rw [children, he]; rfl
        split_ifs with hp
        · rfl
        · have hkept := houtside hp
          rw [under, Option.elim_some, hchildren] at hkept
          rw [Option.map_some, Option.map_some, hkept]
    · have hnone := hgone i hbelow
      rw [contains, slot?, Option.isSome_map, Option.isSome_eq_false_iff,
        Option.isNone_iff_eq_none] at hnone
      rw [cell?_cut, hbelow, if_pos rfl, hnone]

theorem clear_eq (hf : f.Linked) (stack : List Nat) (g : Forest α)
    (h : f.Clearing top g stack) : g.clear stack = f.cut top := by
  induction g, stack using clear.induct with
  | case1 g => rw [clear, h.eq_cut hf]
  | case2 g id stack hid ih => rw [clear, if_pos hid, ih (h.take hf hid)]
  | case3 g id stack hid ih => rw [clear, if_neg hid, ih (h.skip hid)]

end Clearing

/-- Removing a node leaves the forest without the node and all that stands below it. -/
theorem remove_eq_cut (hf : f.Linked) (id : Nat) : f.remove id = f.cut id :=
  Clearing.clear_eq hf [id] (f.unlink id) (.init hf id)

theorem Linked.remove (hf : f.Linked) (id : Nat) : (f.remove id).Linked := by
  rw [remove_eq_cut hf]
  exact hf.cut id

/-- Clearing gives no numbers and plants nothing, whatever is on the stack. -/
theorem clear_shrinks (f : Forest α) (stack : List Nat) :
    (f.clear stack).size = f.size ∧
      ∀ i, (f.clear stack).contains i = true → f.contains i = true := by
  induction f, stack using clear.induct with
  | case1 f =>
    rw [clear]
    exact ⟨rfl, fun _ h => h⟩
  | case2 f id stack hid ih =>
    rw [clear, if_pos hid]
    refine ⟨ih.1.trans (size_take f id), fun i hi => ?_⟩
    have htake := ih.2 i hi
    rw [contains_take, Bool.and_eq_true] at htake
    exact htake.2
  | case3 f id stack hid ih => rwa [clear, if_neg hid]

theorem size_remove (f : Forest α) (id : Nat) : (f.remove id).size = f.size :=
  (clear_shrinks _ _).1.trans (size_unlink f id)

theorem contains_of_contains_remove (hi : (f.remove id).contains i = true) :
    f.contains i = true := by
  have hi := (clear_shrinks _ _).2 i hi
  rwa [contains, slot?_unlink] at hi

end Forest

end SchemaSieve
