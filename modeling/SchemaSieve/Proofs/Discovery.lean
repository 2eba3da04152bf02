import Mathlib.Tactic
import SchemaSieve.Live.Tree
import SchemaSieve.Proofs.Forest

/-!
# What discovery builds

A node `StandsFor` a discovered object if it carries its kind and its name, and the nodes above it
are the ancestors that the object names. In a tree of discovered objects every node stands for one,
an implied ancestor for the object that would be discovered at its place, and no two nodes beside
each other have one kind and one name (`WellFormed`). Putting an object gives a node that stands for
it, and nodes never change afterwards (`put_spec`).
-/

namespace SchemaSieve

namespace DiscoveredObject

/-- The nodes above an object, nearest first. -/
def above (o : DiscoveredObject) : List LiveNode := (o.links.map fun l => ⟨l.1, some l.2⟩).reverse

/-- What is above an implied ancestor of an object is what the object names above it. -/
theorem links_implied {o : DiscoveredObject} {kind : ObjectKind} {name : String}
    {before after : List (ObjectKind × String)} (h : o.links = before ++ (kind, name) :: after) :
    ({ o with kind, name := some name } : DiscoveredObject).links = before := by
  have hget : o.links[before.length]? = some (kind, name) := by simp [h]
  have htake : before = o.links.take before.length := by rw [h, List.take_left]
  rw [htake]
  generalize before.length = n at hget
  rcases o with ⟨k, _, catalog, schema, table⟩
  -- At most three links are there, and each is about a kind of its own.
  cases k <;> rcases catalog with _ | c <;> rcases schema with _ | s <;> rcases table with _ | t <;>
    rcases n with _ | _ | _ | n <;> cases hget <;> rfl

end DiscoveredObject

namespace LiveTree

variable {t t' : LiveTree}

/-- The nodes from a place up to the top, nearest first. -/
def chain (t : LiveTree) (place : Option Nat) : List LiveNode := t.forest.chain place

/-- Whether a node stands where a discovered object has its place. -/
def StandsFor (t : LiveTree) (id : Nat) (o : DiscoveredObject) : Prop :=
  t.node? id = some ⟨o.kind, o.name⟩ ∧ t.chain (t.parent? id) = o.above

/-- Trees as discovery builds them. -/
structure WellFormed (t : LiveTree) : Prop where
  links : t.forest.Linked
  complete : ∀ id, id < t.size → t.forest.contains id = true
  distinct : ∀ ⦃a b : Nat⦄ ⦃kind : ObjectKind⦄ ⦃name : String⦄,
    t.node? a = some ⟨kind, some name⟩ → t.node? b = some ⟨kind, some name⟩ →
      t.parent? a = t.parent? b → a = b
  placed : ∀ ⦃id : Nat⦄, t.forest.contains id = true → ∃ o, t.StandsFor id o

theorem StandsFor.extends {o : DiscoveredObject} {id : Nat} (h : t.StandsFor id o)
    (ht : t.WellFormed) (hext : t.forest.Extends t'.forest) : t'.StandsFor id o := by
  obtain ⟨hn, hc⟩ := h
  have hid := Forest.contains_of_value? hn
  refine ⟨(hext.value?_eq hid).trans hn, ?_⟩
  rw [← hc, parent?, hext.parent?_eq hid]
  exact hext.chain_eq ht.links (ht.links.isPlace_parent? id)

/-! ## Finding and planting -/

theorem find?_eq_some (hf : t.forest.Linked) {place : Option Nat} {kind : ObjectKind}
    {name : String} {id : Nat}
    (h : t.find? place kind name = some id) :
    t.node? id = some ⟨kind, some name⟩ ∧ t.parent? id = place := by
  have hn := List.find?_some h
  have hp := hf.mem_under.1 (List.mem_of_find?_eq_some h)
  exact ⟨by simpa using hn, hp.2⟩

theorem find?_eq_none (hf : t.forest.Linked) {place : Option Nat} {kind : ObjectKind}
    {name : String} {id : Nat}
    (h : t.find? place kind name = none) (hn : t.node? id = some ⟨kind, some name⟩) :
    t.parent? id ≠ place := by
  intro hp
  have hmem : id ∈ t.forest.under place := hf.mem_under.2 ⟨Forest.contains_of_value? hn, hp⟩
  have hne := List.find?_eq_none.1 h id hmem
  simp [hn] at hne

/-- Planting takes the next number, so none is left free. -/
theorem complete_plant (h : ∀ id, id < t.size → t.forest.contains id = true)
    (place : Option Nat) (kind : ObjectKind) (name : Option String) :
    ∀ id, id < (t.plant place kind name).size →
      (t.plant place kind name).forest.contains id = true := by
  intro id hid
  have hsize : id < t.forest.size + 1 := by simpa [size, LiveTree.plant] using hid
  by_cases heq : id = t.forest.size
  · exact Forest.contains_plant.2 (.inl heq)
  · exact Forest.contains_plant.2 (.inr (h id (by simp only [size]; omega)))

/-- Where no number is free, the numbers are those below the next one. -/
theorem ids_eq_range (hfull : ∀ id, id < t.size → t.forest.contains id = true) :
    t.ids = List.range t.size :=
  List.filter_eq_self.2 fun a ha => hfull a (List.mem_range.1 ha)

namespace WellFormed

theorem empty : LiveTree.empty.WellFormed where
  links := Forest.linked_empty
  complete := fun id h => absurd h (Nat.not_lt_zero id)
  distinct := by
    intro a b kind name h
    simp [LiveTree.empty, node?, Forest.value?, Forest.slot?_empty] at h
  placed := by
    intro id h
    simp [LiveTree.empty, Forest.contains, Forest.slot?_empty] at h

/-- Planting keeps a tree well-formed if the new node stands for an object and has no equal beside
it. -/
theorem plant (ht : t.WellFormed) {place : Option Nat}
    (hplace : t.forest.IsPlace place) {o : DiscoveredObject} (hchain : t.chain place = o.above)
    (hnew : ∀ name, o.name = some name → t.find? place o.kind name = none) :
    (t.plant place o.kind o.name).WellFormed ∧
      (t.plant place o.kind o.name).StandsFor t.size o := by
  have hext : t.forest.Extends (t.plant place o.kind o.name).forest := .plant _ _ _
  have hstands : (t.plant place o.kind o.name).StandsFor t.size o := by
    refine ⟨by simp [node?, LiveTree.plant, Forest.value?_plant, size], ?_⟩
    have hp : (t.plant place o.kind o.name).parent? t.size = place := by
      simp [parent?, LiveTree.plant, Forest.parent?_plant, size]
    rw [hp, ← hchain]
    exact hext.chain_eq ht.links hplace
  -- An old node beside the new one would have been found.
  have hclash : ∀ ⦃a : Nat⦄ ⦃kind : ObjectKind⦄ ⦃name : String⦄,
      t.node? a = some ⟨kind, some name⟩ →
        (⟨o.kind, o.name⟩ : LiveNode) = ⟨kind, some name⟩ → t.parent? a ≠ place := by
    intro a kind name ha ho
    obtain ⟨rfl, hname⟩ := LiveNode.mk.inj ho
    exact find?_eq_none ht.links (hnew name hname) ha
  refine ⟨⟨ht.links.plant hplace _, ?_, ?_, ?_⟩, hstands⟩
  · exact complete_plant ht.complete place o.kind o.name
  · intro a b kind name ha hb hab
    simp only [node?, parent?, LiveTree.plant, Forest.value?_plant, Forest.parent?_plant]
      at ha hb hab
    split_ifs at ha hb hab with hia hib hib
    · rw [hia, hib]
    · exact absurd hab.symm (hclash hb (Option.some.inj ha))
    · exact absurd hab (hclash ha (Option.some.inj hb))
    · exact ht.distinct ha hb hab
  · intro id hid
    rcases Forest.contains_plant.1 hid with rfl | hid
    · exact ⟨o, hstands⟩
    · obtain ⟨o', ho'⟩ := ht.placed hid
      exact ⟨o', ho'.extends ht hext⟩

end WellFormed

/-! ## Places and their chains -/

theorem chain_of_node? (ht : t.WellFormed) {id : Nat} {node : LiveNode}
    (hn : t.node? id = some node) : t.chain (some id) = node :: t.chain (t.parent? id) :=
  Forest.chain_some ht.links hn

/-- A chain that starts with a node is that of a place, and goes on above it. -/
theorem exists_of_chain_eq_cons (ht : t.WellFormed) {place : Option Nat} {node : LiveNode}
    {above : List LiveNode} (hplace : t.forest.IsPlace place)
    (h : t.chain place = node :: above) :
    ∃ id, place = some id ∧ t.node? id = some node ∧ t.chain (t.parent? id) = above := by
  rcases place with _ | id
  · cases h
  · obtain ⟨n, hn⟩ := Forest.contains_iff_value?.1 (Forest.isPlace_some.1 hplace)
    rw [chain_of_node? ht hn] at h
    obtain ⟨rfl, rfl⟩ := List.cons.inj h
    exact ⟨id, rfl, hn, rfl⟩

theorem eq_none_of_chain_eq_nil (ht : t.WellFormed) {place : Option Nat}
    (hplace : t.forest.IsPlace place) (h : t.chain place = []) : place = none := by
  rcases place with _ | id
  · rfl
  · obtain ⟨n, hn⟩ := Forest.contains_iff_value?.1 (Forest.isPlace_some.1 hplace)
    rw [chain_of_node? ht hn] at h
    cases h

/-- No two places have one chain of names. -/
theorem eq_of_chain_eq (ht : t.WellFormed) :
    ∀ {c : List LiveNode} {a b : Option Nat}, (∀ n ∈ c, n.name.isSome = true) →
      t.forest.IsPlace a → t.forest.IsPlace b → t.chain a = c → t.chain b = c → a = b
  | [], a, b, _, ha, hb, hac, hbc => by
    rw [eq_none_of_chain_eq_nil ht ha hac, eq_none_of_chain_eq_nil ht hb hbc]
  | node :: c, a, b, hnames, ha, hb, hac, hbc => by
    obtain ⟨i, rfl, hi, hic⟩ := exists_of_chain_eq_cons ht ha hac
    obtain ⟨j, rfl, hj, hjc⟩ := exists_of_chain_eq_cons ht hb hbc
    have hparent : t.parent? i = t.parent? j :=
      eq_of_chain_eq ht (fun n hn => hnames n (List.mem_cons_of_mem _ hn))
        (ht.links.isPlace_parent? i) (ht.links.isPlace_parent? j) hic hjc
    obtain ⟨kind, name⟩ := node
    obtain ⟨n, rfl⟩ := Option.isSome_iff_exists.1 (hnames _ List.mem_cons_self)
    rw [ht.distinct hi hj hparent]

/-! ## Adding objects -/

theorem findOrPlant_spec (ht : t.WellFormed) {place : Option Nat}
    (hplace : t.forest.IsPlace place) {o : DiscoveredObject} {name : String}
    (hname : o.name = some name) (hchain : t.chain place = o.above) {id : Nat}
    (h : t.findOrPlant place o.kind name = (id, t')) :
    t'.WellFormed ∧ t.forest.Extends t'.forest ∧ t'.StandsFor id o := by
  unfold findOrPlant at h
  rcases hf : t.find? place o.kind name with _ | found <;> rw [hf] at h <;> cases h
  · have hnew : ∀ n, o.name = some n → t.find? place o.kind n = none := by
      intro n hn
      obtain rfl := Option.some.inj (hname.symm.trans hn)
      exact hf
    obtain ⟨hwf, hstands⟩ := ht.plant hplace hchain hnew
    rw [hname] at hwf hstands
    exact ⟨hwf, .plant _ _ _, hstands⟩
  · obtain ⟨hn, hp⟩ := find?_eq_some ht.links hf
    exact ⟨ht, .refl _, hname ▸ hn, hp ▸ hchain⟩

/-- Following one link of an object leads to a node with the chain of the links so far; `before` are
the links that were followed already. -/
theorem follow_spec {o : DiscoveredObject} {before after : List (ObjectKind × String)}
    {place : Option Nat} {kind : ObjectKind} {name : String} {id : Nat} (ht : t.WellFormed)
    (hplace : t.forest.IsPlace place) (hlinks : o.links = before ++ (kind, name) :: after)
    (hchain : t.chain place = (before.map fun l => (⟨l.1, some l.2⟩ : LiveNode)).reverse)
    (h : t.findOrPlant place kind name = (id, t')) :
    t'.WellFormed ∧ t.forest.Extends t'.forest ∧ t'.forest.IsPlace (some id) ∧
      t'.chain (some id)
        = ((before ++ [(kind, name)]).map fun l => (⟨l.1, some l.2⟩ : LiveNode)).reverse := by
  have himplied := DiscoveredObject.links_implied hlinks
  have habove : t.chain place
      = ({ o with kind, name := some name } : DiscoveredObject).above := by
    rw [hchain, DiscoveredObject.above, himplied]
  obtain ⟨ht', htt', hn, hc⟩ := findOrPlant_spec ht hplace rfl habove h
  refine ⟨ht', htt', Forest.isPlace_some.2 (Forest.contains_of_value? hn), ?_⟩
  rw [chain, Forest.chain_some ht'.links hn, List.map_append, List.reverse_append]
  exact congrArg _ (hc.trans (habove ▸ hchain))

/-- Following the links of an object leads to where it has its place; `before` are the links that
were followed already. -/
theorem descend_spec {o : DiscoveredObject} :
    ∀ {after before : List (ObjectKind × String)} {t : LiveTree} {place place' : Option Nat},
      t.WellFormed → t.forest.IsPlace place → o.links = before ++ after →
      t.chain place = (before.map fun l => (⟨l.1, some l.2⟩ : LiveNode)).reverse →
      t.descend place after = (place', t') →
      t'.WellFormed ∧ t.forest.Extends t'.forest ∧ t'.forest.IsPlace place' ∧
        t'.chain place' = o.above
  | [], before, t, place, place', ht, hplace, hlinks, hchain, h => by
    cases h
    rw [List.append_nil] at hlinks
    exact ⟨ht, .refl _, hplace, by rw [hchain, DiscoveredObject.above, hlinks]⟩
  | (kind, name) :: after, before, t, place, place', ht, hplace, hlinks, hchain, h => by
    rw [descend] at h
    rcases hstep : t.findOrPlant place kind name with ⟨id, u⟩
    rw [hstep] at h
    obtain ⟨hu, htu, hid, hbelow⟩ := follow_spec ht hplace hlinks hchain hstep
    have hrest : o.links = (before ++ [(kind, name)]) ++ after := by
      rw [hlinks, List.append_assoc, List.singleton_append]
    obtain ⟨ht', hut', hplace', hchain'⟩ := descend_spec hu hid hrest hbelow h
    exact ⟨ht', htu.trans hut', hplace', hchain'⟩

/-- Putting an object keeps all nodes as they are and gives one that stands for the object. -/
theorem put_spec (ht : t.WellFormed) (o : DiscoveredObject) :
    (t.put o).2.WellFormed ∧ t.forest.Extends (t.put o).2.forest ∧
      (t.put o).2.StandsFor (t.put o).1 o := by
  rcases hd : t.descend none o.links with ⟨place, u⟩
  obtain ⟨hu, htu, hplace, hchain⟩ :=
    descend_spec ht Forest.isPlace_none (List.nil_append _).symm rfl hd
  rw [put, hd]
  simp only
  rcases hname : o.name with _ | name
  · obtain ⟨hwf, hstands⟩ := hu.plant hplace hchain (by simp [hname])
    rw [hname] at hwf hstands
    exact ⟨hwf, htu.trans (.plant _ _ _), hstands⟩
  · simp only
    rcases hf : u.findOrPlant place o.kind name with ⟨id, v⟩
    obtain ⟨hv, huv, hstands⟩ := findOrPlant_spec hu hplace hname hchain hf
    exact ⟨hv, htu.trans huv, hstands⟩

/-- Adding objects keeps all nodes as they are. -/
theorem foldl_addObject_spec : ∀ (objects : List DiscoveredObject) {t : LiveTree}, t.WellFormed →
    (objects.foldl addObject t).WellFormed ∧
      t.forest.Extends (objects.foldl addObject t).forest
  | [], t, ht => ⟨ht, .refl _⟩
  | o :: objects, t, ht => by
    obtain ⟨hput, htput, -⟩ := put_spec ht o
    obtain ⟨hwf, hext⟩ := foldl_addObject_spec objects hput
    exact ⟨hwf, htput.trans hext⟩

theorem ofObjects_wellFormed (objects : List DiscoveredObject) : (ofObjects objects).WellFormed :=
  (foldl_addObject_spec objects .empty).1

/-- In the tree of a list, the node that was put for an object stands for it. -/
theorem standsFor_ofObjects (before after : List DiscoveredObject) (o : DiscoveredObject) :
    (ofObjects (before ++ o :: after)).StandsFor ((ofObjects before).put o).1 o := by
  obtain ⟨hwf, -, hstands⟩ := put_spec (ofObjects_wellFormed before) o
  have hfold : ofObjects (before ++ o :: after)
      = after.foldl addObject ((ofObjects before).put o).2 := by
    rw [ofObjects, List.foldl_append]
    rfl
  rw [hfold]
  exact hstands.extends hwf (foldl_addObject_spec after hwf).2

end LiveTree

end SchemaSieve
