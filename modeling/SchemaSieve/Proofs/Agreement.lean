import Mathlib.Tactic
import SchemaSieve.Proofs.Discovery
import SchemaSieve.Proofs.Reconciling

/-!
# Reconciling agrees with deciding

Reconciling decides about a node by the names above it, deciding about a discovered object reads
the fields of the object. Where a node stands for an object both say the same
(`StandsFor.ofResult_decide`): a blank ancestor counts for neither, a field that the kind has no use
for is in no chain, and a column without a table is refused by both, by one for its place and by the
other for its field.
-/

namespace SchemaSieve

/-- What the result of a decision says about a node: one that fails leaves it undetermined. -/
def Membership.ofResult : Except Finding Decision → Membership
  | .ok d => .ofDecision d
  | .error _ => .undetermined

theorem Membership.ofResult_eq_included_iff {r : Except Finding Decision} :
    ofResult r = included ↔ r = .ok .included := by
  rcases r with e | d
  · simp [ofResult]
  · cases d <;> simp [ofResult, ofDecision]

/-- The fields of an object as the path to it. -/
def DiscoveredObject.path (o : DiscoveredObject) : ObjectPath :=
  ⟨o.catalog, o.schema, o.table, o.name⟩

/-- Decisions differ in what they report at most if the paths differ only where a name is blank or
the kind has no use for it. -/
theorem Sieve.ofResult_decide_congr (s : Sieve) {p q : ObjectPath} {kind : ObjectKind}
    (hname : Text.nonBlank p.name = Text.nonBlank q.name)
    (hcatalog : kind ≠ .catalog → Text.nonBlank p.catalog = Text.nonBlank q.catalog)
    (hschema : kind.isContainer = false → Text.nonBlank p.schema = Text.nonBlank q.schema)
    (htable : kind = .column → Text.nonBlank p.table = Text.nonBlank q.table) :
    Membership.ofResult (s.decide p kind) = Membership.ofResult (s.decide q kind) := by
  simp only [decide, hname]
  rcases Text.nonBlank q.name with _ | name
  · rfl
  · cases kind with
    | catalog => rfl
    | schema => simp only [hcatalog (by simp)]
    | table | procedure => simp only [decideInScope, scope?, hcatalog (by simp), hschema rfl]
    | column =>
      simp only [decideInScope, scope?, hcatalog (by simp), hschema rfl, htable rfl]
      rcases Text.nonBlank q.table with _ | table <;> rfl

/-- A decision fails exactly for want of a name, or of a table that a column needs. -/
theorem Sieve.ofResult_decide_eq_undetermined_iff {s : Sieve} {path : ObjectPath}
    {kind : ObjectKind} :
    Membership.ofResult (s.decide path kind) = .undetermined ↔
      Text.nonBlank path.name = none ∨ kind = .column ∧ Text.nonBlank path.table = none := by
  have hdecided : ∀ d : Decision, Membership.ofResult (.ok d) ≠ .undetermined := by
    intro d
    cases d <;> simp [Membership.ofResult, Membership.ofDecision]
  rcases hname : Text.nonBlank path.name with _ | name
  · simp [decide, hname, Membership.ofResult]
  · cases kind with
    | column =>
      rcases htable : Text.nonBlank path.table with _ | table
      · simp [decide, hname, htable, Membership.ofResult]
      · simp [decide, hname, htable, hdecided]
    | catalog | schema | table | procedure => simp [decide, hname, hdecided]

/-! ## The names above an object -/

/-- The link that a node is by itself. -/
def LiveNode.link? (n : LiveNode) : Option LiveLink := (Text.nonBlank n.name).map (⟨n.kind, ·⟩)

/-- The links above an object that count, outermost first. -/
def DiscoveredObject.linksAbove (o : DiscoveredObject) : List LiveLink :=
  (o.above.filterMap LiveNode.link?).reverse

theorem DiscoveredObject.linksAbove_eq (o : DiscoveredObject) :
    o.linksAbove = o.links.filterMap fun l => (Text.nonBlank (some l.2)).map (⟨l.1, ·⟩) := by
  rw [linksAbove, above, List.filterMap_reverse, List.reverse_reverse, List.filterMap_map]
  rfl

/-- The link that a name above an object gives, unless it is blank. -/
def linksOfName (kind : ObjectKind) (name : Option String) : List LiveLink :=
  ((Text.nonBlank name).map (⟨kind, ·⟩)).toList

theorem DiscoveredObject.linksAbove_eq_linksOfName (o : DiscoveredObject) :
    o.linksAbove = (if o.kind = .catalog then [] else linksOfName .catalog o.catalog) ++
      (if o.kind.isContainer then [] else linksOfName .schema o.schema) ++
      (if o.kind = .column then linksOfName .table o.table else []) := by
  have hfield : ∀ (f : Option String) (kind : ObjectKind),
      ((f.map (kind, ·)).toList.filterMap fun l => (Text.nonBlank (some l.2)).map (LiveLink.mk l.1))
        = linksOfName kind f := by
    intro f kind
    rcases f with _ | n
    · rfl
    · rcases h : Text.nonBlank (some n) <;> simp [linksOfName, h]
  rw [DiscoveredObject.linksAbove_eq]
  rcases o with ⟨kind, _, catalog, schema, table⟩
  cases kind <;>
    simp only [DiscoveredObject.links, ObjectKind.isContainer, reduceCtorEq, if_true, if_false,
      List.filterMap_append, hfield, Bool.false_eq_true] <;>
    rfl

theorem ObjectPath.ofLinks_linksAbove (o : DiscoveredObject) (name : String) :
    ObjectPath.ofLinks name o.linksAbove =
      { catalog := if o.kind = .catalog then none else Text.nonBlank o.catalog
        schema := if o.kind.isContainer then none else Text.nonBlank o.schema
        table := if o.kind = .column then Text.nonBlank o.table else none
        name := some name } := by
  rw [DiscoveredObject.linksAbove_eq_linksOfName]
  rcases o with ⟨kind, _, catalog, schema, table⟩
  unfold linksOfName
  cases kind <;> rcases Text.nonBlank catalog <;> rcases Text.nonBlank schema <;>
    rcases Text.nonBlank table <;> rfl

/-- What an object names above it lets it stand there, unless it is a column that names no table. -/
theorem DiscoveredObject.canAppearUnder_above (o : DiscoveredObject) :
    o.kind.canAppearUnder (o.above.head?.map (·.kind)) = (o.kind != .column || o.table.isSome) := by
  rcases o with ⟨kind, _, catalog, schema, table⟩
  cases kind <;> rcases catalog with _ | c <;> rcases schema with _ | s <;>
    rcases table with _ | tb <;> rfl

theorem DiscoveredObject.kind_ne_column_of_mem_above {o : DiscoveredObject} {n : LiveNode}
    (hn : n ∈ o.above) : n.kind ≠ .column := by
  obtain ⟨l, hl, rfl⟩ := List.mem_map.1 (List.mem_reverse.1 hn)
  rcases o with ⟨kind, _, catalog, schema, table⟩
  simp only [links, List.mem_append, Option.mem_toList] at hl
  rcases hl with (hl | hl) | hl <;> split_ifs at hl <;>
    obtain ⟨_, -, rfl⟩ := Option.map_eq_some_iff.1 hl <;> simp

namespace LiveTree

variable {t : LiveTree} {id : Nat} {o : DiscoveredObject}

/-- The links of some nodes are those of what stands there. -/
theorem filterMap_link? (t : LiveTree) (ids : List Nat) :
    ids.filterMap t.link? = (ids.filterMap t.node?).filterMap LiveNode.link? := by
  have hlink : t.link? = fun a => (t.node? a).bind LiveNode.link? := by
    funext a
    rw [link?]
    rcases t.node? a with _ | node
    · rfl
    · simp only [LiveNode.link?, Option.bind_some, Option.bind_eq_bind]
      rcases Text.nonBlank node.name <;> rfl
  rw [hlink, List.filterMap_filterMap]

namespace StandsFor

theorem linksAbove_eq (ht : t.WellFormed) (h : t.StandsFor id o) :
    t.linksAbove id = o.linksAbove := by
  have habove : o.above = (t.ancestors id).filterMap t.node? :=
    h.2.symm.trans (Forest.chain_parent? ht.links id)
  rw [LiveTree.linksAbove, DiscoveredObject.linksAbove, habove, filterMap_link?,
    List.filterMap_reverse, List.filterMap_reverse]

theorem parentKind?_eq (ht : t.WellFormed) (h : t.StandsFor id o) :
    t.parentKind? id = o.above.head?.map (·.kind) := by
  rw [parentKind?, ← h.2]
  rcases hp : t.parent? id with _ | p
  · rfl
  · obtain ⟨node, hn⟩ := Forest.contains_iff_value?.1 (ht.links.parent hp).2
    rw [chain, Forest.chain_some ht.links hn, Option.bind_some, node?, hn]
    rfl

/-- Both decisions about a node and the object it stands for come to the same. -/
theorem ofResult_decide (ht : t.WellFormed) (h : t.StandsFor id o) (s : Sieve) :
    Membership.ofResult (t.decide s id ⟨o.kind, o.name⟩)
      = Membership.ofResult (s.decide o.path o.kind) := by
  rw [LiveTree.decide]
  rcases hname : Text.nonBlank o.name with _ | name
  · simp only [Sieve.decide, DiscoveredObject.path, hname]
    rfl
  · simp only [h.parentKind?_eq ht, DiscoveredObject.canAppearUnder_above]
    split_ifs with hcan
    · rw [h.linksAbove_eq ht, ObjectPath.ofLinks_linksAbove]
      have hblank := (Text.nonBlank_eq_some_iff.1 hname).2
      refine s.ofResult_decide_congr ?_ ?_ ?_ ?_
      · rw [Text.nonBlank_some hblank]
        exact hname.symm
      · intro hk
        simp [hk, DiscoveredObject.path]
      · intro hk
        simp [hk, DiscoveredObject.path]
      · intro hk
        simp [hk, DiscoveredObject.path]
    · obtain ⟨hk, hnone⟩ : o.kind = .column ∧ o.table = none := by simpa using hcan
      simp only [Sieve.decide, DiscoveredObject.path, hname, hk, hnone]
      rfl

end StandsFor

/-! ## What reconciling says -/

theorem membership_annotate (t : LiveTree) (s : Sieve) (shapes : List Shape) (id : Nat)
    (node : LiveNode) :
    (t.annotate s shapes id node).membership = Membership.ofResult (t.decide s id node) := by
  rw [annotate]
  rcases t.decide s id node with e | d
  · rfl
  · rcases t.link? id <;> rfl

theorem mem_nodes_reconcile (hf : t.forest.Linked) {s : Sieve} {shapes : List Shape}
    {a : AnnotatedNode} :
    a ∈ (t.reconcile s shapes).nodes ↔
      ∃ id node, t.node? id = some node ∧ t.annotate s shapes id node = a := by
  simp only [reconcile_eq hf, annotation?, List.mem_filterMap, Option.map_eq_some_iff]
  constructor
  · rintro ⟨id, -, node, hn, rfl⟩
    exact ⟨id, node, hn, rfl⟩
  · rintro ⟨id, node, hn, rfl⟩
    exact ⟨id, Forest.mem_ids.2 (Forest.contains_of_value? hn), node, hn, rfl⟩

section

variable (hf : t.forest.Linked) (hfull : ∀ id, id < t.size → t.forest.contains id = true)
  (s : Sieve) (shapes : List Shape)

include hf hfull

/-- Where no number is free, each number has its node, so that the default is not needed. -/
theorem nodes_reconcile :
    (t.reconcile s shapes).nodes = (List.range t.size).map
      fun a => t.annotate s shapes a ((t.node? a).getD ⟨.catalog, none⟩) := by
  rw [reconcile_eq hf, ids_eq_range hfull, ← List.filterMap_eq_map]
  refine List.filterMap_congr fun a ha => ?_
  obtain ⟨node, hn⟩ := Forest.contains_iff_value?.1 (hfull a (List.mem_range.1 ha))
  simp [annotation?, node?, hn]

/-- Where no number is free, the node at a position is the one with that number. -/
theorem getElem?_nodes_reconcile (id : Nat) :
    (t.reconcile s shapes).nodes[id]? = t.annotation? s shapes id := by
  rw [annotation?, nodes_reconcile hf hfull, List.getElem?_map]
  by_cases hid : id < t.size
  · obtain ⟨node, hn⟩ := Forest.contains_iff_value?.1 (hfull id hid)
    simp [List.getElem?_range hid, node?, hn]
  · have hnone : t.node? id = none := Forest.value?_eq_none (Nat.le_of_not_lt hid)
    rw [hnone, List.getElem?_eq_none (by simpa using hid)]
    rfl

theorem node?_reconcile (id : Nat) :
    (t.reconcile s shapes).node? id = t.annotation? s shapes id := by
  rw [AnnotatedTree.node?, getElem?_nodes_reconcile hf hfull, annotation?]
  rcases t.node? id with _ | node
  · rfl
  · simp [annotate]

theorem membership?_eq {node : LiveNode} (hn : t.node? id = some node) :
    (t.reconcile s shapes).membership? id = some (Membership.ofResult (t.decide s id node)) := by
  rw [AnnotatedTree.membership?, node?_reconcile hf hfull, annotation?, hn]
  exact congrArg some (membership_annotate t s shapes id _)

end

theorem membership?_reconcile (ht : t.WellFormed) (h : t.StandsFor id o) (s : Sieve)
    (shapes : List Shape) :
    (t.reconcile s shapes).membership? id
      = some (Membership.ofResult (s.decide o.path o.kind)) := by
  rw [membership?_eq ht.links ht.complete s shapes h.1, h.ofResult_decide ht]

/-- Whatever else was discovered and in whatever order, the node that was made or reused for an
object gets the membership that deciding about the object comes to. -/
theorem reconcile_ofObjects_agrees (s : Sieve) (shapes : List Shape)
    (before after : List DiscoveredObject) (o : DiscoveredObject) :
    ((ofObjects (before ++ o :: after)).reconcile s shapes).membership? ((ofObjects before).put o).1
      = some (Membership.ofResult (s.decide o.path o.kind)) :=
  membership?_reconcile (ofObjects_wellFormed _) (standsFor_ofObjects before after o) s shapes

end LiveTree

end SchemaSieve
