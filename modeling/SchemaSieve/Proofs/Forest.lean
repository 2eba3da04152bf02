import Mathlib.Tactic
import SchemaSieve.Forest

/-!
# Forests as they grow

Planting adds one slot and leaves the others as they are, so a walk up from a node that stood
before is the same afterwards. In a `Linked` forest parents and lists of children agree, and a
parent was planted before its child: the bounds in the definitions of `ancestors` and `branch?` are
then never met, and both satisfy the recursion along parents and children (`ancestors_of_parent?`,
`branch?_eq`).
-/

namespace SchemaSieve

namespace Forest

variable {α : Type} {f : Forest α}

/-! ## Cells -/

theorem cell?_empty (id : Nat) : (empty : Forest α).cell? id = none := by
  simp [cell?, empty]

theorem cell?_modify (f : Forest α) (g : Cell α → Cell α) (id i : Nat) :
    ({ f with cells := f.cells.modify id (·.map g) } : Forest α).cell? i
      = if i = id then (f.cell? i).map g else f.cell? i := by
  simp only [cell?, Array.getElem?_modify]
  by_cases h : id = i
  · subst h
    rcases f.cells[id]? with _ | _ | c <;> simp
  · rw [if_neg h, if_neg (Ne.symm h)]

/-- Entering a node in a list changes nothing else. -/
theorem cell?_link (f : Forest α) (place : Option Nat) (id i : Nat) :
    (f.link place id).cell? i = (f.cell? i).map fun c =>
      { c with children := c.children ++ if place = some i then [id] else [] } := by
  rcases place with _ | p
  · simp [link, cell?]
  · rw [link, cell?_modify]
    by_cases h : i = p
    · simp [h]
    · simp [h, Ne.symm h]

theorem cell?_push (f : Forest α) (c : Cell α) (i : Nat) :
    ({ f with cells := f.cells.push (some c) } : Forest α).cell? i
      = if i = f.size then some c else f.cell? i := by
  by_cases h : i = f.size
  · subst h
    simp [cell?, size]
  · have hne : i ≠ f.cells.size := h
    rw [if_neg h, cell?, cell?, Array.getElem?_push, if_neg hne]

theorem cell?_unlink (f : Forest α) (id i : Nat) :
    (f.unlink id).cell? i = (f.cell? i).map fun c =>
      { c with children :=
          if f.parent? id = some i then c.children.filter (· != id) else c.children } := by
  unfold unlink
  split
  · rename_i hp
    simp [hp, cell?]
  · rename_i p hp
    rw [cell?_modify, hp]
    by_cases h : i = p
    · simp [h]
    · simp [h, Ne.symm h]

theorem ext_cell? {g : Forest α} (hsize : g.size = f.size) (hroots : g.roots = f.roots)
    (h : ∀ i, g.cell? i = f.cell? i) : g = f := by
  obtain ⟨xs, _⟩ := f
  obtain ⟨ys, _⟩ := g
  obtain rfl := hroots
  congr 1
  refine Array.ext hsize fun i hi hi' => ?_
  simpa [cell?, Array.getElem?_eq_getElem hi, Array.getElem?_eq_getElem hi'] using h i

/-! ## Slots -/

theorem slot?_empty (id : Nat) : (empty : Forest α).slot? id = none := by
  rw [slot?, cell?_empty]
  rfl

theorem slot?_plant (f : Forest α) (place : Option Nat) (v : α) (id : Nat) :
    (f.plant place v).slot? id = if id = f.size then some ⟨place, v⟩ else f.slot? id := by
  rw [slot?, plant, cell?_link, cell?_push, Option.map_map]
  by_cases hid : id = f.size
  · rw [if_pos hid, if_pos hid]
    rfl
  · rw [if_neg hid, if_neg hid]
    rfl

theorem slot?_replace (f : Forest α) (id : Nat) (v : α) (i : Nat) :
    (f.replace id v).slot? i
      = if i = id then (f.slot? i).map ({ · with value := v }) else f.slot? i := by
  rw [slot?, slot?, replace, cell?_modify]
  split_ifs
  · rw [Option.map_map, Option.map_map]
    rfl
  · rfl

theorem slot?_unlink (f : Forest α) (id i : Nat) : (f.unlink id).slot? i = f.slot? i := by
  rw [slot?, slot?, cell?_unlink, Option.map_map]
  rfl

theorem lt_size_of_slot? {id : Nat} {s : Slot α} (h : f.slot? id = some s) : id < f.size := by
  obtain ⟨c, he, -⟩ := Option.map_eq_some_iff.1 h
  rw [cell?, Option.join_eq_some_iff] at he
  obtain ⟨hlt, -⟩ := Array.getElem?_eq_some_iff.1 he
  exact hlt

theorem contains_iff {id : Nat} : f.contains id = true ↔ ∃ s, f.slot? id = some s := by
  rw [contains, Option.isSome_iff_exists]

theorem contains_iff_value? {id : Nat} : f.contains id = true ↔ ∃ v, f.value? id = some v := by
  simp [contains_iff, value?]

theorem contains_iff_cell? {id : Nat} : f.contains id = true ↔ ∃ c, f.cell? id = some c := by
  rw [contains, slot?, Option.isSome_map, Option.isSome_iff_exists]

theorem value?_eq_none_iff {id : Nat} : f.value? id = none ↔ f.contains id = false := by
  simp [value?, contains]

theorem lt_size_of_contains {id : Nat} (h : f.contains id = true) : id < f.size := by
  obtain ⟨s, hs⟩ := contains_iff.1 h
  exact lt_size_of_slot? hs

theorem contains_size (f : Forest α) : f.contains f.size = false :=
  Bool.eq_false_iff.2 fun h => (lt_size_of_contains h).false

theorem contains_of_parent? {id p : Nat} (h : f.parent? id = some p) : f.contains id = true := by
  simp only [parent?, Option.bind_eq_some_iff] at h
  obtain ⟨s, hs, -⟩ := h
  exact contains_iff.2 ⟨s, hs⟩

theorem contains_of_value? {id : Nat} {v : α} (h : f.value? id = some v) : f.contains id = true :=
  contains_iff_value?.2 ⟨v, h⟩

theorem value?_eq_none {id : Nat} (h : f.size ≤ id) : f.value? id = none := by
  rw [Option.eq_none_iff_forall_ne_some]
  intro v hv
  have hlt := lt_size_of_contains (contains_of_value? hv)
  omega

theorem mem_ids {id : Nat} : id ∈ f.ids ↔ f.contains id = true := by
  simp only [ids, List.mem_filter, List.mem_range, and_iff_right_iff_imp]
  exact lt_size_of_contains

theorem ids_nodup (f : Forest α) : f.ids.Nodup := List.nodup_range.filter _

/-! ## Planting -/

theorem value?_plant (f : Forest α) (place : Option Nat) (v : α) (id : Nat) :
    (f.plant place v).value? id = if id = f.size then some v else f.value? id := by
  simp only [value?, slot?_plant]
  split_ifs <;> rfl

theorem parent?_plant (f : Forest α) (place : Option Nat) (v : α) (id : Nat) :
    (f.plant place v).parent? id = if id = f.size then place else f.parent? id := by
  simp only [parent?, slot?_plant]
  split_ifs <;> rfl

theorem contains_plant {place : Option Nat} {v : α} {id : Nat} :
    (f.plant place v).contains id = true ↔ id = f.size ∨ f.contains id = true := by
  simp only [contains, slot?_plant]
  split_ifs with h <;> simp [h]

theorem contains_plant_of_contains {place : Option Nat} {v : α} {id : Nat}
    (h : f.contains id = true) : (f.plant place v).contains id = true :=
  contains_plant.2 (.inr h)

theorem ne_size_of_contains {id : Nat} (h : f.contains id = true) : id ≠ f.size :=
  (lt_size_of_contains h).ne

theorem ids_plant (f : Forest α) (place : Option Nat) (v : α) :
    (f.plant place v).ids = f.ids ++ [f.size] := by
  have hnew : (f.plant place v).contains f.size = true := contains_plant.2 (.inl rfl)
  rw [ids, size_plant, List.range_succ, List.filter_append, List.filter_singleton, hnew]
  congr 1
  refine List.filter_congr fun id hid => ?_
  have hne : id ≠ f.size := (List.mem_range.1 hid).ne
  rw [contains, contains, slot?_plant, if_neg hne]

theorem roots_plant (f : Forest α) (place : Option Nat) (v : α) :
    (f.plant place v).roots = f.roots ++ if place = none then [f.size] else [] := by
  rcases place with _ | p
  · rfl
  · exact (List.append_nil _).symm

theorem children_eq_nil {id : Nat} (h : f.contains id = false) : f.children id = [] := by
  have hnone : f.cell? id = none := by
    rwa [contains, slot?, Option.isSome_map, Option.isSome_eq_false_iff,
      Option.isNone_iff_eq_none] at h
  rw [children, hnone]
  rfl

/-! ## Replacing -/

theorem parent?_replace (f : Forest α) (id : Nat) (v : α) (i : Nat) :
    (f.replace id v).parent? i = f.parent? i := by
  simp only [parent?, slot?_replace]
  split_ifs
  · rcases f.slot? i with _ | s <;> rfl
  · rfl

theorem contains_replace (f : Forest α) (id : Nat) (v : α) (i : Nat) :
    (f.replace id v).contains i = f.contains i := by
  simp only [contains, slot?_replace]
  split_ifs
  · rw [Option.isSome_map]
  · rfl

theorem under_replace (f : Forest α) (id : Nat) (v : α) (place : Option Nat) :
    (f.replace id v).under place = f.under place := by
  rcases place with _ | p
  · rfl
  · simp only [under, Option.elim_some, children, replace, cell?_modify]
    split_ifs
    · rcases f.cell? p with _ | c <;> rfl
    · rfl

/-! ## Places -/

/-- Whether a place is the top or a node that stands. -/
def IsPlace (f : Forest α) (place : Option Nat) : Prop := ∀ p, place = some p → f.contains p = true

theorem isPlace_none : f.IsPlace none := by
  intro p h
  cases h

theorem isPlace_some {p : Nat} : f.IsPlace (some p) ↔ f.contains p = true := by
  simp [IsPlace]

/-! ## Lists of nodes -/

/-- Planting under a place that stands adds the new node to the list of this place alone. -/
theorem under_plant {place : Option Nat} (hplace : f.IsPlace place) (v : α) (q : Option Nat) :
    (f.plant place v).under q = f.under q ++ if place = q then [f.size] else [] := by
  rcases q with _ | q
  · exact roots_plant f place v
  · simp only [under, Option.elim_some, children, plant, cell?_link, cell?_push]
    by_cases hq : q = f.size
    · -- Nothing stood under the new number, and it is not the place.
      have hnone : f.children q = [] := children_eq_nil (hq ▸ contains_size f)
      have hne : place ≠ some q := by
        rintro rfl
        exact ne_size_of_contains (isPlace_some.1 hplace) hq
      rw [← children, hnone, if_pos hq, if_neg hne]
      rfl
    · rw [if_neg hq]
      rcases he : f.cell? q with _ | c
      · have hne : place ≠ some q := by
          rintro rfl
          obtain ⟨c, he'⟩ := contains_iff_cell?.1 (isPlace_some.1 hplace)
          rw [he] at he'
          cases he'
        rw [if_neg hne]
        rfl
      · rfl

/-! ## Links -/

/-- Whether both directions of the links agree: each node stands at the top or under a node that was
planted before it, and under a place there is the list of the nodes that stand there, in the order
of planting. -/
structure Linked (f : Forest α) : Prop where
  parent : ∀ ⦃id p : Nat⦄, f.parent? id = some p → p < id ∧ f.contains p = true
  under : ∀ place, f.under place = f.ids.filter fun id => f.parent? id == place

theorem linked_empty : (empty : Forest α).Linked where
  parent := by
    intro id p h
    simp [parent?, slot?_empty] at h
  under := by
    rintro (_ | p)
    · rfl
    · simp [Forest.under, children, cell?_empty, ids]

namespace Linked

theorem mem_under (hf : f.Linked) {place : Option Nat} {id : Nat} :
    id ∈ f.under place ↔ f.contains id = true ∧ f.parent? id = place := by
  simp [hf.under, mem_ids]

theorem mem_roots (hf : f.Linked) {id : Nat} :
    id ∈ f.roots ↔ f.contains id = true ∧ f.parent? id = none := by
  rw [← hf.mem_under]
  rfl

theorem mem_children (hf : f.Linked) {p id : Nat} :
    id ∈ f.children p ↔ f.parent? id = some p :=
  hf.mem_under.trans (and_iff_right_of_imp contains_of_parent?)

/-- The nodes under a place stand in the order of planting. -/
theorem under_pairwise (hf : f.Linked) (place : Option Nat) :
    (f.under place).Pairwise (· < ·) := by
  rw [hf.under]
  exact (List.pairwise_lt_range.filter _).filter _

theorem under_nodup (hf : f.Linked) (place : Option Nat) : (f.under place).Nodup :=
  (hf.under_pairwise place).imp fun h => h.ne

theorem isPlace_parent? (hf : f.Linked) (id : Nat) : f.IsPlace (f.parent? id) :=
  fun _ hp => (hf.parent hp).2

theorem plant (hf : f.Linked) {place : Option Nat} (hplace : f.IsPlace place) (v : α) :
    (f.plant place v).Linked where
  parent := by
    intro id p h
    rw [parent?_plant] at h
    split_ifs at h with hid
    · have hp := hplace p h
      exact ⟨hid ▸ lt_size_of_contains hp, contains_plant_of_contains hp⟩
    · obtain ⟨hlt, hp⟩ := hf.parent h
      exact ⟨hlt, contains_plant_of_contains hp⟩
  under := by
    intro q
    have hold : (f.ids.filter fun id => (f.plant place v).parent? id == q)
        = f.ids.filter fun id => f.parent? id == q := by
      refine List.filter_congr fun id hid => ?_
      rw [parent?_plant, if_neg (ne_size_of_contains (mem_ids.1 hid))]
    rw [under_plant hplace, hf.under, ids_plant, List.filter_append, hold, List.filter_singleton,
      parent?_plant, if_pos rfl]
    by_cases h : place = q
    · simp [h]
    · rw [if_neg h, beq_false_of_ne h, cond_false]

theorem replace (hf : f.Linked) (id : Nat) (v : α) : (f.replace id v).Linked where
  parent := by
    intro i p h
    rw [parent?_replace] at h
    rw [contains_replace]
    exact hf.parent h
  under := by
    intro place
    have hids : (f.replace id v).ids = f.ids := by
      rw [ids, ids, size_replace]
      exact List.filter_congr fun i _ => contains_replace f id v i
    rw [under_replace, hf.under, hids]
    exact List.filter_congr fun i _ => by rw [parent?_replace]

theorem parent?_zero (hf : f.Linked) : f.parent? 0 = none := by
  rw [Option.eq_none_iff_forall_ne_some]
  intro p h
  exact Nat.not_lt_zero p (hf.parent h).1

end Linked

/-- Links say the same in two forests with the same slots. -/
theorem under_congr {g : Forest α} (hf : f.Linked) (hg : g.Linked)
    (h : ∀ i, g.slot? i = f.slot? i) (place : Option Nat) : g.under place = f.under place := by
  have hids : g.ids = f.ids := by
    refine List.Perm.eq_of_pairwise (fun a b _ _ hab hba => absurd hab (Nat.lt_asymm hba))
      (List.pairwise_lt_range.filter _) (List.pairwise_lt_range.filter _) ?_
    refine (List.perm_ext_iff_of_nodup g.ids_nodup f.ids_nodup).2 fun i => ?_
    rw [mem_ids, mem_ids, contains, contains, h]
  rw [hf.under, hg.under, hids]
  exact List.filter_congr fun i _ => by rw [parent?, parent?, h]

/-! ## Walking up -/

theorem ancestorsWithin_congr (hf : f.Linked) :
    ∀ (m n id : Nat), id ≤ m → id ≤ n → f.ancestorsWithin m id = f.ancestorsWithin n id
  | 0, 0, _, _, _ => rfl
  | 0, n + 1, id, hm, _ => by
    obtain rfl := Nat.le_zero.1 hm
    simp [ancestorsWithin, hf.parent?_zero]
  | m + 1, 0, id, _, hn => by
    obtain rfl := Nat.le_zero.1 hn
    simp [ancestorsWithin, hf.parent?_zero]
  | m + 1, n + 1, id, hm, hn => by
    rcases h : f.parent? id with _ | p
    · simp [ancestorsWithin, h]
    · have hlt := (hf.parent h).1
      simp only [ancestorsWithin, h, Option.elim_some]
      rw [ancestorsWithin_congr hf m n p (by omega) (by omega)]

theorem ancestors_of_parent?_eq_none {id : Nat} (h : f.parent? id = none) :
    f.ancestors id = [] := by
  rcases id with _ | id <;> simp [ancestors, ancestorsWithin, h]

theorem ancestors_of_parent? (hf : f.Linked) {id p : Nat} (h : f.parent? id = some p) :
    f.ancestors id = p :: f.ancestors p := by
  have hlt := (hf.parent h).1
  obtain ⟨n, rfl⟩ : ∃ n, id = n + 1 := ⟨id - 1, by omega⟩
  simp only [ancestors, ancestorsWithin, h, Option.elim_some]
  rw [ancestorsWithin_congr hf n p p (by omega) le_rfl]

/-- What is above a node stands, and was planted before it. -/
theorem Linked.ancestor (hf : f.Linked) :
    ∀ (id a : Nat), a ∈ f.ancestors id → a < id ∧ f.contains a = true := by
  intro id
  induction id using Nat.strong_induction_on with
  | _ id ih =>
    intro a ha
    rcases h : f.parent? id with _ | p
    · simp [ancestors_of_parent?_eq_none h] at ha
    · obtain ⟨hlt, hp⟩ := hf.parent h
      rw [ancestors_of_parent? hf h, List.mem_cons] at ha
      rcases ha with rfl | ha
      · exact ⟨hlt, hp⟩
      · obtain ⟨halt, hac⟩ := ih p hlt a ha
        exact ⟨by omega, hac⟩

/-! ## Forests that extend others -/

/-- Whether all that stands in a forest stands in another at the same numbers. -/
def Extends (f g : Forest α) : Prop :=
  ∀ ⦃id : Nat⦄ ⦃s : Slot α⦄, f.slot? id = some s → g.slot? id = some s

namespace Extends

variable {g h : Forest α}

theorem refl (f : Forest α) : f.Extends f := fun _ _ hs => hs

theorem trans (hfg : f.Extends g) (hgh : g.Extends h) : f.Extends h :=
  fun _ _ hs => hgh (hfg hs)

theorem plant (f : Forest α) (place : Option Nat) (v : α) : f.Extends (f.plant place v) := by
  intro id s hs
  rw [slot?_plant, if_neg (lt_size_of_slot? hs).ne]
  exact hs

theorem slot?_eq (hfg : f.Extends g) {id : Nat} (hid : f.contains id = true) :
    g.slot? id = f.slot? id := by
  obtain ⟨s, hs⟩ := contains_iff.1 hid
  rw [hs, hfg hs]

theorem contains (hfg : f.Extends g) {id : Nat} (hid : f.contains id = true) :
    g.contains id = true := by
  rw [Forest.contains, slot?_eq hfg hid]
  exact hid

theorem value?_eq (hfg : f.Extends g) {id : Nat} (hid : f.contains id = true) :
    g.value? id = f.value? id := by
  rw [value?, value?, slot?_eq hfg hid]

theorem parent?_eq (hfg : f.Extends g) {id : Nat} (hid : f.contains id = true) :
    g.parent? id = f.parent? id := by
  rw [parent?, parent?, slot?_eq hfg hid]

/-- The walk up from a node that stood before is the same as before. -/
theorem ancestors_eq (hf : f.Linked) (hfg : f.Extends g) {id : Nat}
    (hid : f.contains id = true) : g.ancestors id = f.ancestors id := by
  -- Step by step: the forest that extends the other need not be linked.
  have hwithin : ∀ n id, f.contains id = true →
      g.ancestorsWithin n id = f.ancestorsWithin n id := by
    intro n
    induction n with
    | zero => intro id _; rfl
    | succ n ih =>
      intro id hid
      simp only [ancestorsWithin, hfg.parent?_eq hid]
      rcases h : f.parent? id with _ | p
      · rfl
      · simp only [Option.elim_some]
        rw [ih p (hf.parent h).2]
  exact hwithin id id hid

end Extends

/-! ## Chains -/

/-- The values from a place up to the top, nearest first. -/
def chain (f : Forest α) (place : Option Nat) : List α :=
  place.elim [] fun id => (id :: f.ancestors id).filterMap f.value?

@[simp] theorem chain_none : f.chain none = [] := rfl

/-- Above a node is what is above its place. -/
theorem chain_parent? (hf : f.Linked) (id : Nat) :
    f.chain (f.parent? id) = (f.ancestors id).filterMap f.value? := by
  rcases h : f.parent? id with _ | p
  · rw [ancestors_of_parent?_eq_none h]
    rfl
  · rw [ancestors_of_parent? hf h]
    rfl

theorem chain_some (hf : f.Linked) {id : Nat} {v : α} (hv : f.value? id = some v) :
    f.chain (some id) = v :: f.chain (f.parent? id) := by
  rw [chain, Option.elim_some, List.filterMap_cons_some hv, chain_parent? hf]

theorem Extends.chain_eq {g : Forest α} (hf : f.Linked) (hfg : f.Extends g) {place : Option Nat}
    (hplace : f.IsPlace place) : g.chain place = f.chain place := by
  rcases place with _ | id
  · rfl
  · have hid := isPlace_some.1 hplace
    rw [chain, chain, Option.elim_some, Option.elim_some, hfg.ancestors_eq hf hid]
    refine List.filterMap_congr fun a ha => hfg.value?_eq ?_
    rcases List.mem_cons.1 ha with rfl | ha
    · exact hid
    · exact (hf.ancestor id a ha).2

/-! ## Branches -/

theorem branchWithin_congr (hf : f.Linked) :
    ∀ (m n id : Nat), f.size ≤ id + m → f.size ≤ id + n →
      f.branchWithin m id = f.branchWithin n id := by
  have hout : ∀ n id, f.size ≤ id → f.branchWithin n id = none := by
    intro n id hid
    cases n <;> simp [branchWithin, value?_eq_none hid]
  intro m
  induction m with
  | zero =>
    intro n id hm _
    rw [hout 0 id hm, hout n id hm]
  | succ m ih =>
    intro n id hm hn
    rcases n with _ | n
    · rw [hout (m + 1) id hn, hout 0 id hn]
    · simp only [branchWithin]
      -- A child has a larger number than its parent, so less fuel is enough for it.
      have hbelow : ∀ c ∈ f.children id, f.branchWithin m c = f.branchWithin n c := by
        intro c hc
        have hlt := (hf.parent (hf.mem_children.1 hc)).1
        exact ih n c (by omega) (by omega)
      rw [List.filterMap_congr hbelow]

theorem branch?_eq (hf : f.Linked) (id : Nat) :
    f.branch? id = (f.value? id).map fun v => .mk v ((f.children id).filterMap f.branch?) := by
  rcases hs : f.size with _ | n
  · have hnone : f.value? id = none := value?_eq_none (by omega)
    simp [branch?, hs, branchWithin, hnone]
  · have hbelow : ∀ c ∈ f.children id, f.branchWithin n c = f.branch? c := by
      intro c hc
      have hlt := (hf.parent (hf.mem_children.1 hc)).1
      exact branchWithin_congr hf n f.size c (by omega) (by omega)
    conv_lhs => rw [branch?, hs, branchWithin]
    rw [List.filterMap_congr hbelow]

/-! ## Grafting -/

mutual

/-- What every planting under a node that stands keeps is kept by grafting a branch there. -/
theorem graft_induction {P : Forest α → Prop}
    (hplant : ∀ (f : Forest α) (p : Nat) (v : α), P f → f.contains p = true →
      P (f.plant (some p) v)) :
    ∀ (b : Branch α) (f : Forest α) (p : Nat), P f → f.contains p = true →
      P (f.graft (some p) b) ∧ (f.graft (some p) b).contains p = true ∧
        ∀ id, f.contains id = true → (f.graft (some p) b).contains id = true
  | .mk v cs, f, p, hP, hp => by
    have hnew : (f.plant (some p) v).contains f.size = true := contains_plant.2 (.inl rfl)
    obtain ⟨hP', -, hkeep⟩ := graftAll_induction hplant cs (f.plant (some p) v) f.size
      (hplant f p v hP hp) hnew
    simp only [graft]
    exact ⟨hP', hkeep p (contains_plant_of_contains hp),
      fun id hid => hkeep id (contains_plant_of_contains hid)⟩

theorem graftAll_induction {P : Forest α → Prop}
    (hplant : ∀ (f : Forest α) (p : Nat) (v : α), P f → f.contains p = true →
      P (f.plant (some p) v)) :
    ∀ (bs : List (Branch α)) (f : Forest α) (p : Nat), P f → f.contains p = true →
      P (f.graftAll (some p) bs) ∧ (f.graftAll (some p) bs).contains p = true ∧
        ∀ id, f.contains id = true → (f.graftAll (some p) bs).contains id = true
  | [], f, p, hP, hp => by
    simp only [graftAll]
    exact ⟨hP, hp, fun _ h => h⟩
  | b :: bs, f, p, hP, hp => by
    obtain ⟨hP₁, hp₁, hkeep₁⟩ := graft_induction hplant b f p hP hp
    obtain ⟨hP₂, hp₂, hkeep₂⟩ := graftAll_induction hplant bs (f.graft (some p) b) p hP₁ hp₁
    simp only [graftAll]
    exact ⟨hP₂, hp₂, fun id hid => hkeep₂ id (hkeep₁ id hid)⟩

end

end Forest

end SchemaSieve
