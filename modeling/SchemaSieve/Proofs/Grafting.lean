import Mathlib.Tactic
import SchemaSieve.Proofs.Edits

/-!
# What grafting plants

Grafting a branch adds one child to the place and nothing below the nodes that stood before; from
the number of that child the branch is read off again (`graft_spec`). So the tree of a document,
read as a branch, is the branches of the document below a root (`RuleTree.branch_ofDocument`).
-/

namespace SchemaSieve

namespace Forest

variable {α : Type} {f g : Forest α}

/-- A branch is the same in two forests if the nodes of it have the same values and children. -/
theorem branch?_congr (hf : f.Linked) (hg : g.Linked) {S : Nat → Prop}
    (hsame : ∀ i, S i → g.value? i = f.value? i ∧ g.children i = f.children i)
    (hbelow : ∀ i, S i → ∀ c ∈ f.children i, S c) {i : Nat} (hi : S i) :
    g.branch? i = f.branch? i := by
  rw [branch?_eq hf, branch?_eq hg, (hsame i hi).1, (hsame i hi).2]
  -- Children have larger numbers than their parents, and these are bounded.
  have hchildren : ∀ c ∈ f.children i, g.branch? c = f.branch? c := by
    intro c hc
    have hparent := hf.mem_children.1 hc
    have hlt := (hf.parent hparent).1
    have hsize := lt_size_of_contains (contains_of_parent? hparent)
    exact branch?_congr hf hg hsame hbelow (hbelow i hi c hc)
  rw [List.filterMap_congr hchildren]
termination_by f.size - i

/-- Whether a forest has more below one node than another had, and has what was elsewhere as it
was: the new children of the node are the roots of some branches. -/
structure Grafted (f g : Forest α) (p : Nat) (bs : List (Branch α)) : Prop where
  links : g.Linked
  keeps : f.Extends g
  elsewhere : ∀ q, f.contains q = true → q ≠ p → g.children q = f.children q
  tops : ∃ new, g.children p = f.children p ++ new ∧ new.filterMap g.branch? = bs

namespace Grafted

variable {h : Forest α} {p : Nat} {bs cs : List (Branch α)}

/-- What stands below younger nodes than the place is left alone. -/
theorem branch?_eq (hf : f.Linked) (hg : f.Grafted g p bs) {i : Nat} (hpi : p < i)
    (hi : f.contains i = true) : g.branch? i = f.branch? i := by
  refine branch?_congr (S := fun i => p < i ∧ f.contains i = true) hf hg.links ?_ ?_ ⟨hpi, hi⟩
  · rintro i ⟨hlt, hi⟩
    exact ⟨hg.keeps.value?_eq hi, hg.elsewhere i hi hlt.ne'⟩
  · rintro i ⟨hlt, -⟩ c hc
    have hparent := hf.mem_children.1 hc
    exact ⟨hlt.trans (hf.parent hparent).1, contains_of_parent? hparent⟩

theorem refl (hf : f.Linked) (p : Nat) : f.Grafted f p [] :=
  ⟨hf, .refl f, fun _ _ _ => rfl, [], by simp⟩

theorem trans (hfg : f.Grafted g p bs) (hgh : g.Grafted h p cs) :
    f.Grafted h p (bs ++ cs) := by
  obtain ⟨new, hnew, hbs⟩ := hfg.tops
  obtain ⟨new', hnew', hcs⟩ := hgh.tops
  refine ⟨hgh.links, hfg.keeps.trans hgh.keeps, fun q hq hne => ?_, new ++ new', ?_, ?_⟩
  · rw [hgh.elsewhere q (hfg.keeps.contains hq) hne, hfg.elsewhere q hq hne]
  · rw [hnew', hnew, List.append_assoc]
  · -- The first branches are younger than the place, so the second graft leaves them alone.
    have hold : new.filterMap h.branch? = new.filterMap g.branch? := by
      refine List.filterMap_congr fun c hc => ?_
      have hmem : c ∈ g.children p := by
        rw [hnew]
        exact List.mem_append_right _ hc
      have hparent := hfg.links.mem_children.1 hmem
      exact hgh.branch?_eq hfg.links (hfg.links.parent hparent).1 (contains_of_parent? hparent)
    rw [List.filterMap_append, hold, hbs, hcs]

end Grafted

mutual

theorem grafted_graft {f : Forest α} (hf : f.Linked) {p : Nat}
    (hp : f.contains p = true) : ∀ b : Branch α, f.Grafted (f.graft (some p) b) p [b]
  | .mk v cs => by
    have hplant : (f.plant (some p) v).Linked := hf.plant (isPlace_some.2 hp) v
    have hnew : (f.plant (some p) v).contains f.size = true := contains_plant.2 (.inl rfl)
    -- The branches below go under the new node, so nothing that stood before gets them.
    have hbelow := grafted_graftAll hplant hnew cs
    have helse : ∀ q, f.contains q = true →
        ((f.plant (some p) v).graftAll (some f.size) cs).children q
          = f.children q ++ if p = q then [f.size] else [] := by
      intro q hq
      rw [hbelow.elsewhere q (contains_plant_of_contains hq) (ne_size_of_contains hq)]
      simpa [under] using under_plant (isPlace_some.2 hp) v (some q)
    rw [graft]
    refine ⟨hbelow.links, (Extends.plant f _ v).trans hbelow.keeps, fun q hq hne => ?_,
      [f.size], ?_, ?_⟩
    · rw [helse q hq, if_neg (Ne.symm hne), List.append_nil]
    · rw [helse p hp, if_pos rfl]
    · obtain ⟨new, hchildren, htops⟩ := hbelow.tops
      have hnone : (f.plant (some p) v).children f.size = [] := by
        refine (under_plant (isPlace_some.2 hp) v (some f.size)).trans ?_
        simp [under, children_eq_nil (contains_size f), ne_size_of_contains hp]
      rw [hnone, List.nil_append] at hchildren
      have htop : (((f.plant (some p) v).graftAll (some f.size) cs).branch? f.size)
          = some (.mk v cs) := by
        rw [Forest.branch?_eq hbelow.links, hbelow.keeps.value?_eq hnew, value?_plant, if_pos rfl,
          hchildren, htops, Option.map_some]
      rw [List.filterMap_cons_some htop, List.filterMap_nil]

theorem grafted_graftAll {f : Forest α} (hf : f.Linked) {p : Nat}
    (hp : f.contains p = true) : ∀ bs : List (Branch α), f.Grafted (f.graftAll (some p) bs) p bs
  | [] => .refl hf p
  | b :: bs => by
    have hfirst := grafted_graft hf hp b
    rw [graftAll]
    exact hfirst.trans (grafted_graftAll hfirst.links (hfirst.keeps.contains hp) bs)

end

end Forest

/-- The tree of a document is the branches of the document below a root. -/
theorem RuleTree.branch_ofDocument (d : RulesDocument) :
    (ofDocument d).branch = .mk .root d.branches := by
  have hg := Forest.grafted_graftAll WellFormed.empty.links WellFormed.empty.contains_root
    d.branches
  obtain ⟨new, hchildren, htops⟩ := hg.tops
  have hnone : empty.forest.children rootId = [] := by decide
  rw [hnone, List.nil_append] at hchildren
  have hvalue : (ofDocument d).forest.value? rootId = some .root :=
    (hg.keeps.value?_eq WellFormed.empty.contains_root).trans WellFormed.empty.node?_root
  have hbelow : (ofDocument d).forest.children rootId = new := hchildren
  rw [branch, Forest.branch?_eq (WellFormed.ofDocument d).links, hvalue, hbelow, Option.map_some,
    Option.getD_some]
  exact congrArg (Branch.mk RuleNode.root) htops

end SchemaSieve
