import Mathlib.Tactic
import SchemaSieve.Proofs.Discovery
import SchemaSieve.Proofs.Filters
import SchemaSieve.Proofs.Links

/-!
# Discovered objects by their chains

The chain of a node leads from it up to the top, and so does that of a discovered object; the ways
from the top down to an ancestor are then the suffixes of a chain. What a tree of discovered objects
holds is known by the chains of its nodes. Putting an object adds those suffixes of its chain that
the tree does not hold yet, and the chain itself again if the object has no name (`chains_put`). So
a tree holds each named suffix of the chains of its objects once, and an object without a name as
often as it was discovered (`ofObjects_gathers`).
-/

namespace SchemaSieve

section

variable {α : Type} [BEq α] [LawfulBEq α] [DecidableEq α]

theorem count_addNew (xs : List α) (x c : α) :
    (addNew xs x).count c = if c ∈ xs then xs.count c else if c = x then 1 else 0 := by
  unfold addNew
  by_cases hx : x ∈ xs
  · rw [if_pos hx]
    by_cases hc : c ∈ xs
    · rw [if_pos hc]
    · have hne : c ≠ x := by
        rintro rfl
        exact hc hx
      rw [if_neg hc, if_neg hne, List.count_eq_zero.2 hc]
  · rw [if_neg hx, List.count_append, List.count_singleton]
    by_cases hc : c ∈ xs
    · have hne : x ≠ c := by
        rintro rfl
        exact hx hc
      simp [hc, hne]
    · simp only [List.count_eq_zero.2 hc, if_neg hc, beq_iff_eq, Nat.zero_add, eq_comm (a := x)]

/-- A merge leaves what is held already as often as it was, and adds what is new once. -/
theorem count_mergeNew (c : α) : ∀ ys xs : List α,
    (mergeNew xs ys).count c = if c ∈ xs then xs.count c else if c ∈ ys then 1 else 0
  | [], xs => by
    by_cases hc : c ∈ xs
    · simp [mergeNew, hc]
    · simp [mergeNew, hc, List.count_eq_zero]
  | y :: ys, xs => by
    have ih := count_mergeNew c ys (addNew xs y)
    rw [mergeNew, List.foldl_cons, ← mergeNew, ih, count_addNew]
    simp only [mem_addNew, List.mem_cons]
    by_cases hc : c ∈ xs <;> by_cases hy : c = y <;> simp [hc, hy]

end

/-! ## Chains of links -/

/-- The node that a link asks for. -/
def linkNode (l : ObjectKind × String) : LiveNode := ⟨l.1, some l.2⟩

/-- The chains of the nodes that links lead to, one after the other, from below a chain. -/
def chainsAlong (above : List LiveNode) : List (ObjectKind × String) → List (List LiveNode)
  | [] => []
  | l :: links => (linkNode l :: above) :: chainsAlong (linkNode l :: above) links

/-- They are the ends of the chain of the last one that are longer than the chain at the start. -/
theorem mem_chainsAlong {c : List LiveNode} :
    ∀ {links : List (ObjectKind × String)} {above : List LiveNode}, c ∈ chainsAlong above links ↔
      c <:+ (links.map linkNode).reverse ++ above ∧ above.length < c.length
  | [], above => by
    simp only [chainsAlong, List.not_mem_nil, List.map_nil, List.reverse_nil, List.nil_append,
      false_iff, not_and, not_lt]
    exact List.IsSuffix.length_le
  | l :: links, above => by
    have hsuffix : linkNode l :: above <:+ (links.map linkNode).reverse ++ linkNode l :: above :=
      List.suffix_append _ _
    rw [chainsAlong, List.mem_cons, mem_chainsAlong, List.map_cons, List.reverse_cons,
      List.append_assoc, List.singleton_append, List.length_cons]
    constructor
    · rintro (rfl | ⟨hc, hlt⟩)
      · exact ⟨hsuffix, by simp⟩
      · exact ⟨hc, by omega⟩
    · rintro ⟨hc, hlt⟩
      by_cases heq : c.length = above.length + 1
      · left
        have hle : c.length ≤ (linkNode l :: above).length := by simp [heq]
        exact (List.suffix_of_suffix_length_le hc hsuffix hle).eq_of_length (by simp [heq])
      · exact .inr ⟨hc, by omega⟩

namespace DiscoveredObject

/-- The nodes from an object up to the top. -/
def chain (o : DiscoveredObject) : List LiveNode := ⟨o.kind, o.name⟩ :: o.above

theorem above_eq_reverse (o : DiscoveredObject) : o.above = (o.links.map linkNode).reverse := rfl

theorem isSome_of_mem_above {o : DiscoveredObject} {n : LiveNode} (h : n ∈ o.above) :
    n.name.isSome = true := by
  rw [above_eq_reverse, List.mem_reverse] at h
  obtain ⟨l, -, rfl⟩ := List.mem_map.1 h
  rfl

end DiscoveredObject

namespace LiveTree

variable {t t' : LiveTree} {place place' : Option Nat} {kind : ObjectKind} {name : String}
  {o : DiscoveredObject} {objects : List DiscoveredObject}

/-! ## Chains of a tree -/

/-- The chains of the nodes of a tree, in the order of planting. -/
def chains (t : LiveTree) : List (List LiveNode) := t.ids.map fun id => t.chain (some id)

theorem mem_chains {c : List LiveNode} : c ∈ t.chains ↔ ∃ id ∈ t.ids, t.chain (some id) = c :=
  List.mem_map

theorem chains_plant (ht : t.forest.Linked) (hplace : t.forest.IsPlace place) (kind : ObjectKind)
    (name : Option String) :
    (t.plant place kind name).chains = t.chains ++ [⟨kind, name⟩ :: t.chain place] := by
  have hext : t.forest.Extends (t.plant place kind name).forest := .plant _ _ _
  have hlinked : (t.plant place kind name).forest.Linked := ht.plant hplace _
  have hnode : (t.plant place kind name).forest.value? t.forest.size = some ⟨kind, name⟩ := by
    simp [LiveTree.plant, Forest.value?_plant]
  have hparent : (t.plant place kind name).forest.parent? t.forest.size = place := by
    simp [LiveTree.plant, Forest.parent?_plant]
  have hold : ∀ id ∈ t.ids, (t.plant place kind name).chain (some id) = t.chain (some id) :=
    fun id hid => hext.chain_eq ht (Forest.isPlace_some.2 (Forest.mem_ids.1 hid))
  have hnew : (t.plant place kind name).chain (some t.forest.size)
      = ⟨kind, name⟩ :: t.chain place := by
    rw [chain, Forest.chain_some hlinked hnode, hparent, hext.chain_eq ht hplace, chain]
  have hids : (t.plant place kind name).ids = t.ids ++ [t.forest.size] := Forest.ids_plant _ _ _
  rw [chains, hids, List.map_append, List.map_congr_left hold, List.map_singleton, hnew, chains]

/-- A named node is planted exactly if its chain is not held yet. -/
theorem chains_findOrPlant (ht : t.WellFormed) (hplace : t.forest.IsPlace place)
    (hnames : ∀ n ∈ t.chain place, n.name.isSome = true) (kind : ObjectKind) (name : String) :
    (t.findOrPlant place kind name).2.chains
      = addNew t.chains (⟨kind, some name⟩ :: t.chain place) := by
  unfold findOrPlant
  rcases hf : t.find? place kind name with _ | id
  · have hnew : ⟨kind, some name⟩ :: t.chain place ∉ t.chains := by
      intro hmem
      obtain ⟨id, hid, hc⟩ := mem_chains.1 hmem
      obtain ⟨node, hnode, hn, habove⟩ :=
        exists_of_chain_eq_cons ht (Forest.isPlace_some.2 (Forest.mem_ids.1 hid)) hc
      obtain rfl := Option.some.inj hnode
      refine find?_eq_none ht.links hf hn ?_
      exact eq_of_chain_eq ht hnames (ht.links.isPlace_parent? _) hplace habove rfl
    rw [addNew, if_neg hnew]
    exact chains_plant ht.links hplace kind (some name)
  · obtain ⟨hn, hp⟩ := find?_eq_some ht.links hf
    have hheld : ⟨kind, some name⟩ :: t.chain place ∈ t.chains := by
      refine mem_chains.2 ⟨id, Forest.mem_ids.2 (Forest.contains_of_value? hn), ?_⟩
      rw [chain_of_node? ht hn, hp]
    rw [addNew, if_pos hheld]

/-- Following the links of an object adds the chains on the way. -/
theorem chains_descend :
    ∀ {after before : List (ObjectKind × String)} {t : LiveTree} {place : Option Nat},
      t.WellFormed → t.forest.IsPlace place → o.links = before ++ after →
      t.chain place = (before.map linkNode).reverse →
      (t.descend place after).2.chains = mergeNew t.chains (chainsAlong (t.chain place) after)
  | [], _, _, _, _, _, _, _ => rfl
  | (kind, name) :: after, before, t, place, ht, hplace, hlinks, hchain => by
    have hnames : ∀ n ∈ t.chain place, n.name.isSome = true := by
      intro n hn
      rw [hchain, List.mem_reverse] at hn
      obtain ⟨l, -, rfl⟩ := List.mem_map.1 hn
      rfl
    have hstep := chains_findOrPlant ht hplace hnames kind name
    rcases hu : t.findOrPlant place kind name with ⟨id, u⟩
    rw [hu] at hstep
    obtain ⟨hwf, -, hid, hbelow⟩ := follow_spec ht hplace hlinks hchain hu
    have hrest : o.links = (before ++ [(kind, name)]) ++ after := by
      rw [hlinks, List.append_assoc, List.singleton_append]
    have hnext : u.chain (some id) = linkNode (kind, name) :: t.chain place := by
      rw [hbelow, hchain, List.map_append, List.reverse_append]
      rfl
    rw [descend, hu]
    simp only
    rw [chains_descend hwf hid hrest hbelow, hstep, hnext]
    rfl

/-- Putting an object adds the chains of the ancestors it names, and then its own one: anew if it
has no name, otherwise unless it is held. -/
theorem chains_put (ht : t.WellFormed) (o : DiscoveredObject) :
    (t.put o).2.chains =
      if o.name.isSome then addNew (mergeNew t.chains (chainsAlong [] o.links)) o.chain
      else mergeNew t.chains (chainsAlong [] o.links) ++ [o.chain] := by
  have habove := chains_descend ht Forest.isPlace_none (List.nil_append o.links).symm rfl
  rcases hd : t.descend none o.links with ⟨place, u⟩
  rw [hd, chain, Forest.chain_none] at habove
  obtain ⟨hu, -, hplace, hchain⟩ :=
    descend_spec ht Forest.isPlace_none (List.nil_append _).symm rfl hd
  rw [put, hd]
  simp only at habove ⊢
  rcases hname : o.name with _ | name
  · rw [Option.isSome_none, if_neg Bool.false_ne_true, ← habove, DiscoveredObject.chain, hname,
      ← hchain]
    exact chains_plant hu.links hplace o.kind none
  · have hnames : ∀ n ∈ u.chain place, n.name.isSome = true := by
      rw [hchain]
      exact fun _ => DiscoveredObject.isSome_of_mem_above
    rw [Option.isSome_some, if_pos rfl, ← habove, DiscoveredObject.chain, hname, ← hchain]
    exact chains_findOrPlant hu hplace hnames o.kind name

/-! ## How often a chain is held -/

theorem mem_chainsAlong_links {c : List LiveNode} :
    c ∈ chainsAlong [] o.links ↔ c <:+ o.above ∧ c ≠ [] := by
  rw [mem_chainsAlong, List.append_nil, List.length_nil, List.length_pos_iff]
  rfl

theorem count_singleton_chain (o : DiscoveredObject) (c : List LiveNode) :
    [o.chain].count c = if o.chain = c then 1 else 0 := by
  rw [List.count_singleton]
  simp only [beq_iff_eq]

/-- With an object comes each named chain in which its own chain ends, once. -/
theorem count_chains_put_named (ht : t.WellFormed) (o : DiscoveredObject) (kind : ObjectKind)
    (name : String) (above : List LiveNode) :
    (t.put o).2.chains.count (⟨kind, some name⟩ :: above) =
      if ⟨kind, some name⟩ :: above ∈ t.chains then t.chains.count (⟨kind, some name⟩ :: above)
      else if ⟨kind, some name⟩ :: above <:+ o.chain then 1 else 0 := by
  have halong : ⟨kind, some name⟩ :: above ∈ chainsAlong [] o.links ↔
      ⟨kind, some name⟩ :: above <:+ o.above := by
    rw [mem_chainsAlong_links, and_iff_left (List.cons_ne_nil _ _)]
  have hends : ⟨kind, some name⟩ :: above <:+ o.chain ↔
      ⟨kind, some name⟩ :: above = o.chain ∨ ⟨kind, some name⟩ :: above <:+ o.above :=
    List.suffix_cons_iff
  rw [chains_put ht]
  rcases hname : o.name with _ | own
  · have hne : ⟨kind, some name⟩ :: above ≠ o.chain := by
      rw [DiscoveredObject.chain, hname]
      simp
    rw [Option.isSome_none, if_neg Bool.false_ne_true, List.count_append, count_mergeNew,
      count_singleton_chain, if_neg hne.symm]
    simp only [halong, hends, hne, false_or, Nat.add_zero]
  · rw [Option.isSome_some, if_pos rfl, count_addNew, count_mergeNew]
    simp only [mem_mergeNew, halong, hends]
    by_cases hheld : ⟨kind, some name⟩ :: above ∈ t.chains <;>
      by_cases habove : ⟨kind, some name⟩ :: above <:+ o.above <;> simp [hheld, habove]

/-- With an object without a name comes its own chain, as often as it is put. -/
theorem count_chains_put_unnamed (ht : t.WellFormed) (o : DiscoveredObject) (kind : ObjectKind)
    (above : List LiveNode) :
    (t.put o).2.chains.count (⟨kind, none⟩ :: above) =
      t.chains.count (⟨kind, none⟩ :: above) +
        if o.chain = ⟨kind, none⟩ :: above then 1 else 0 := by
  have halong : ⟨kind, none⟩ :: above ∉ chainsAlong [] o.links := by
    rw [mem_chainsAlong_links]
    rintro ⟨hc, -⟩
    have hsome := DiscoveredObject.isSome_of_mem_above (hc.subset List.mem_cons_self)
    cases hsome
  have hbase : (mergeNew t.chains (chainsAlong [] o.links)).count (⟨kind, none⟩ :: above)
      = t.chains.count (⟨kind, none⟩ :: above) := by
    rw [count_mergeNew, if_neg halong]
    split_ifs with hheld
    · rfl
    · exact (List.count_eq_zero.2 hheld).symm
  rw [chains_put ht]
  rcases hname : o.name with _ | own
  · rw [Option.isSome_none, if_neg Bool.false_ne_true, List.count_append, hbase,
      count_singleton_chain]
  · have hne : o.chain ≠ ⟨kind, none⟩ :: above := by
      rw [DiscoveredObject.chain, hname]
      simp
    rw [Option.isSome_some, if_pos rfl, count_addNew, hbase, if_neg hne, if_neg hne.symm,
      Nat.add_zero, ite_eq_left_iff]
    intro hout
    rw [← hbase, List.count_eq_zero.2 hout]

/-! ## Trees of lists -/

theorem ofObjects_concat (objects : List DiscoveredObject) (o : DiscoveredObject) :
    ofObjects (objects ++ [o]) = ((ofObjects objects).put o).2 := by
  rw [ofObjects, List.foldl_append]
  rfl

/-- A named chain is held once, if the chain of an object ends in it. -/
theorem count_chains_named (objects : List DiscoveredObject) (kind : ObjectKind) (name : String)
    (above : List LiveNode) :
    (ofObjects objects).chains.count (⟨kind, some name⟩ :: above) =
      if ∃ o ∈ objects, ⟨kind, some name⟩ :: above <:+ o.chain then 1 else 0 := by
  induction objects using List.reverseRecOn with
  | nil => simp [ofObjects, chains, ids, Forest.ids, empty]
  | append_singleton objects o ih =>
    have hheld : ⟨kind, some name⟩ :: above ∈ (ofObjects objects).chains ↔
        ∃ o ∈ objects, ⟨kind, some name⟩ :: above <:+ o.chain := by
      rw [← List.count_pos_iff, ih]
      split_ifs with h <;> simp [h]
    rw [ofObjects_concat, count_chains_put_named (ofObjects_wellFormed objects), ih]
    simp only [hheld, List.mem_append, List.mem_singleton, or_and_right, exists_or, exists_eq_left]
    by_cases hold : ∃ o ∈ objects, ⟨kind, some name⟩ :: above <:+ o.chain <;> simp [hold]

/-- A chain without a name is held for each object that it is the chain of. -/
theorem count_chains_unnamed (objects : List DiscoveredObject) (kind : ObjectKind)
    (above : List LiveNode) :
    (ofObjects objects).chains.count (⟨kind, none⟩ :: above)
      = objects.countP fun o => o.chain = ⟨kind, none⟩ :: above := by
  induction objects using List.reverseRecOn with
  | nil => rfl
  | append_singleton objects o ih =>
    rw [ofObjects_concat, count_chains_put_unnamed (ofObjects_wellFormed objects), ih,
      List.countP_append, List.countP_singleton]
    simp only [decide_eq_true_eq]

theorem length_chains (ht : t.WellFormed) : t.chains.length = t.size := by
  rw [chains, List.length_map, ids_eq_range ht.complete, List.length_range]

theorem nil_not_mem_chains (ht : t.WellFormed) : [] ∉ t.chains := by
  intro hmem
  obtain ⟨id, hid, hc⟩ := mem_chains.1 hmem
  obtain ⟨node, hn⟩ := Forest.contains_iff_value?.1 (Forest.mem_ids.1 hid)
  rw [chain_of_node? ht hn] at hc
  cases hc

/-- How a tree gathers a list of discovered objects: parents come before their children, and each
node stands once in its place; no two nodes beside each other have one kind and one name; the named
chains are those in which the chain of an object ends; and the nodes without a name are the objects
without one, each where it was discovered. -/
structure Gathers (t : LiveTree) (objects : List DiscoveredObject) : Prop where
  parent : ∀ ⦃id p : Nat⦄, t.parent? id = some p → p < id ∧ t.forest.contains p = true
  once : ∀ ⦃id : Nat⦄, t.forest.contains id = true → ∀ place,
    (t.forest.under place).count id = if t.parent? id = place then 1 else 0
  distinct : ∀ ⦃a b : Nat⦄ ⦃kind : ObjectKind⦄ ⦃name : String⦄,
    t.node? a = some ⟨kind, some name⟩ → t.node? b = some ⟨kind, some name⟩ →
      t.parent? a = t.parent? b → a = b
  named : ∀ (kind : ObjectKind) (name : String) (above : List LiveNode),
    (∃ id ∈ t.ids, t.chain (some id) = ⟨kind, some name⟩ :: above) ↔
      ∃ o ∈ objects, ⟨kind, some name⟩ :: above <:+ o.chain
  unnamed : ∀ (kind : ObjectKind) (above : List LiveNode),
    (t.ids.countP fun id => t.chain (some id) = ⟨kind, none⟩ :: above)
      = objects.countP fun o => o.chain = ⟨kind, none⟩ :: above

/-- Whether two lists hold the same discovered objects, and those without a name equally often. -/
structure SameFinds (xs ys : List DiscoveredObject) : Prop where
  mem : ∀ o, o ∈ xs ↔ o ∈ ys
  count : ∀ o, o.name = none → xs.count o = ys.count o

namespace SameFinds

variable {xs ys zs : List DiscoveredObject}

theorem of_perm (h : xs.Perm ys) : SameFinds xs ys := ⟨fun _ => h.mem_iff, fun o _ => h.count_eq o⟩

/-- A named object may be there again. -/
theorem cons_of_mem (ho : o ∈ xs) (hname : o.name ≠ none) : SameFinds (o :: xs) xs := by
  refine ⟨fun o' => ?_, fun o' hnone => List.count_cons_of_ne ?_⟩
  · rw [List.mem_cons, or_iff_right_of_imp]
    rintro rfl
    exact ho
  · rintro rfl
    exact hname hnone

theorem trans (h : SameFinds xs ys) (h' : SameFinds ys zs) : SameFinds xs zs :=
  ⟨fun o => (h.mem o).trans (h'.mem o), fun o ho => (h.count o ho).trans (h'.count o ho)⟩

/-- So the objects without a name that have a property are equally many. -/
theorem countP_eq (h : SameFinds xs ys) {p : DiscoveredObject → Bool}
    (hp : ∀ o, p o = true → o.name = none) : xs.countP p = ys.countP p := by
  have hfilter : (xs.filter p).Perm (ys.filter p) := by
    refine List.perm_iff_count.2 fun o => ?_
    rcases ho : p o
    · rw [List.count_eq_zero.2, List.count_eq_zero.2] <;> simp [ho]
    · rw [List.count_filter ho, List.count_filter ho, h.count o (hp o ho)]
  rw [List.countP_eq_length_filter, List.countP_eq_length_filter, hfilter.length_eq]

theorem chains_perm (h : SameFinds xs ys) : (ofObjects xs).chains.Perm (ofObjects ys).chains := by
  refine List.perm_iff_count.2 fun c => ?_
  rcases c with _ | ⟨⟨kind, _ | name⟩, above⟩
  · rw [List.count_eq_zero.2 (nil_not_mem_chains (ofObjects_wellFormed xs)),
      List.count_eq_zero.2 (nil_not_mem_chains (ofObjects_wellFormed ys))]
  · rw [count_chains_unnamed, count_chains_unnamed]
    refine h.countP_eq fun o ho => ?_
    rw [decide_eq_true_eq] at ho
    exact congrArg LiveNode.name (List.cons.inj ho).1
  · rw [count_chains_named, count_chains_named]
    simp only [h.mem]

end SameFinds

/-- A list of discovered objects is gathered in a tree with nothing lost, made up or doubled. The
order of the list, and how often it has an object with a name, make no difference to what chains the
tree holds. -/
theorem ofObjects_gathers (objects : List DiscoveredObject) :
    (ofObjects objects).Gathers objects ∧
      ∀ others, SameFinds others objects →
        (ofObjects others).chains.Perm (ofObjects objects).chains ∧
          (ofObjects others).size = (ofObjects objects).size := by
  have ht := ofObjects_wellFormed objects
  refine ⟨⟨fun _ _ hp => ht.links.parent hp, fun id hid place => ?_, ht.distinct,
    fun kind name above => ?_, fun kind above => ?_⟩, fun others h => ⟨h.chains_perm, ?_⟩⟩
  · rw [(ht.links.under_nodup place).count]
    simp only [ht.links.mem_under, hid, true_and]
    rfl
  · rw [← mem_chains, ← List.count_pos_iff, count_chains_named]
    split_ifs with h <;> simp [h]
  · rw [← count_chains_unnamed, chains, List.count_eq_countP, List.countP_map]
    simp only [Function.comp_def, beq_eq_decide]
  · rw [← length_chains (ofObjects_wellFormed others), ← length_chains ht, h.chains_perm.length_eq]

/-- A table named before its catalog is found, a procedure of the name of a schema beside it, and
two nameless tables in one place. -/
def scatteredFinds : List DiscoveredObject :=
  [{ kind := .table, name := "T", catalog := "SALES", schema := "EU" },
    { kind := .table, catalog := "SALES" }, { kind := .catalog, name := "SALES" },
    { kind := .procedure, name := "EU", catalog := "SALES" },
    { kind := .table, catalog := "SALES" },
    { kind := .column, name := "ID", catalog := "SALES", schema := "EU", table := "T" }]

theorem ofObjects_gathers_scatteredFinds :
    SameFinds ({ kind := .catalog, name := "SALES" } :: scatteredFinds.reverse) scatteredFinds ∧
      (ofObjects scatteredFinds).Gathers scatteredFinds ∧
        (ofObjects ({ kind := .catalog, name := "SALES" } :: scatteredFinds.reverse)).size
          = (ofObjects scatteredFinds).size ∧ (ofObjects scatteredFinds).size = 7 := by
  have hsame : SameFinds ({ kind := .catalog, name := "SALES" } :: scatteredFinds.reverse)
      scatteredFinds :=
    (SameFinds.cons_of_mem (by decide) (by decide)).trans (.of_perm (List.reverse_perm _))
  obtain ⟨hgathers, hothers⟩ := ofObjects_gathers scatteredFinds
  exact ⟨hsame, hgathers, (hothers _ hsame).2, by decide⟩

end LiveTree

end SchemaSieve
