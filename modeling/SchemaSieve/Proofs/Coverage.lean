import Mathlib.Tactic
import SchemaSieve.Proofs.Inclusion
import SchemaSieve.Proofs.Places

/-!
# Scaffolds are exact

The scaffold of a tree of discovered objects includes each of them that has a name and stands in
named places. Where a place holds a table, no other table would be included there, and the same is
so for procedures (`scaffold_exact`).
-/

namespace SchemaSieve

namespace LiveTree

variable {t : LiveTree} {catalog schema : Option String}

/-! ## Decisions in named places -/

/-- Where a place holds a table or procedure, the names that pass the rules about its kind are those
of the objects of that kind. -/
theorem passesIn_scaffold_iff_has (ht : t.WellFormed) (hliteral : t.Literal)
    {subject : RuleSubject} (hs : subject ≠ .column) {name : String}
    (hhas : t.Has catalog schema subject.kind name) {n : String} :
    t.scaffold.PassesIn catalog schema subject n ↔ t.Has catalog schema subject.kind n := by
  have hexact : ∀ {m}, t.Has catalog schema subject.kind m →
      ∃ p, validPattern? (Regex.escape m) = some p ∧ ∀ m', p.accepts m' = true ↔ m' = m := by
    intro m hm
    obtain ⟨id, hn, -⟩ := hm.node
    exact hliteral.exists_validPattern? hs hn hm.named
  rw [passesIn_scaffold_iff ht.links]
  simp only [exists_include_scaffold_iff ht hs hhas]
  constructor
  · rintro (hnone | ⟨p, ⟨m, hm, hp⟩, haccepts⟩)
    · obtain ⟨p, hp, -⟩ := hexact hhas
      exact absurd ⟨name, hhas, hp⟩ (hnone p)
    · obtain ⟨p', hp', hiff⟩ := hexact hm
      rw [hp, Option.some.injEq] at hp'
      subst hp'
      rwa [(hiff n).1 haccepts]
  · intro hn
    obtain ⟨p, hp, hiff⟩ := hexact hn
    exact .inr ⟨p, ⟨n, hn, hp⟩, (hiff n).2 rfl⟩

/-- Where a place holds a table or procedure, a name is included as another of that kind exactly if
there is one with this name. -/
theorem decide_scaffold_iff (ht : t.WellFormed) (hliteral : t.Literal) (subject : RuleSubject)
    (hs : subject ≠ .column) {name : String} (hhas : t.Has catalog schema subject.kind name)
    {path : ObjectPath} {n : String} (hcatalog : Text.nonBlank path.catalog = catalog)
    (hschema : Text.nonBlank path.schema = schema) (hn : Text.nonBlank path.name = some n) :
    t.scaffold.compile.sieve.decide path subject.kind = .ok .included ↔
      t.Has catalog schema subject.kind n := by
  obtain ⟨place, id, hid, hsite⟩ := hhas.exists_site ht hs
  have hscoped := hsite.resolves ht.links hs hid
  rw [RuleTree.decide_subject_iff t.scaffold_tidy.wellFormed hs hn, hcatalog, hschema]
  constructor
  · rintro ⟨catalogKey, schemaKey, ⟨hc, hsc⟩, hpasses⟩
    obtain rfl := hc.unique hscoped.1
    obtain rfl := hsc.unique hscoped.2
    exact (passesIn_scaffold_iff_has ht hliteral hs hhas).1 hpasses
  · intro h
    exact ⟨catalog, schema, hscoped, (passesIn_scaffold_iff_has ht hliteral hs hhas).2 h⟩

/-! ## Objects in named places -/

/-- Whether a node and all that it stands in have names. -/
def FullyNamed (t : LiveTree) (id : Nat) : Prop :=
  ∀ a ∈ id :: t.ancestors id, ∃ node, t.node? a = some node ∧ (Text.nonBlank node.name).isSome

theorem FullyNamed.chain {id : Nat} (h : t.FullyNamed id) {n : LiveNode}
    (hn : n ∈ t.chain (some id)) : (Text.nonBlank n.name).isSome = true := by
  obtain ⟨a, ha, hna⟩ := List.mem_filterMap.1 hn
  obtain ⟨node, hnode, hname⟩ := h a ha
  rw [show t.forest.value? a = some node from hnode, Option.some.injEq] at hna
  exact hna ▸ hname

theorem nonBlank_eq_of_placeChain
    (h : ∀ n ∈ placeChain catalog schema, (Text.nonBlank n.name).isSome = true) :
    Text.nonBlank catalog = catalog ∧ Text.nonBlank schema = schema := by
  have hname : ∀ {name : Option String}, (∀ n, name = some n → (Text.nonBlank (some n)).isSome) →
      Text.nonBlank name = name := by
    intro name hall
    rcases name with _ | n
    · rfl
    · obtain ⟨m, hm⟩ := Option.isSome_iff_exists.1 (hall n rfl)
      exact hm.trans (Text.nonBlank_eq_some_iff.1 hm).1.symm
  constructor
  · refine hname ?_
    rintro c rfl
    exact h ⟨.catalog, some c⟩ (by simp [placeChain])
  · refine hname ?_
    rintro s rfl
    exact h ⟨.schema, some s⟩ (by simp [placeChain])

theorem FullyNamed.stands {id a : Nat} (h : t.FullyNamed id) (ha : a ∈ id :: t.ancestors id) :
    ∃ kind n, t.Stands (t.parent? a) kind n a := by
  obtain ⟨⟨kind, name⟩, hn, hname⟩ := h a ha
  obtain ⟨n, hname⟩ := Option.isSome_iff_exists.1 hname
  obtain ⟨rfl, hb⟩ := Text.nonBlank_eq_some_iff.1 hname
  exact ⟨kind, n, hn, rfl, hb⟩

/-- What a fully named object stands in may stand where it does. -/
theorem FullyNamed.regular (ht : t.WellFormed) {id : Nat} (hnamed : t.FullyNamed id)
    {o : DiscoveredObject} (h : t.StandsFor id o) : ∀ a ∈ t.ancestors id, t.Regular a := by
  intro a ha
  obtain ⟨kind, n, hstands⟩ := hnamed.stands (List.mem_cons_of_mem id ha)
  have habove : (⟨kind, some n⟩ : LiveNode) ∈ o.above := by
    have hchain : t.chain (t.parent? id) = (t.ancestors id).filterMap t.node? :=
      Forest.chain_parent? ht.links id
    rw [← h.2, hchain]
    exact List.mem_filterMap.2 ⟨a, ha, hstands.node⟩
  have hcolumn := DiscoveredObject.kind_ne_column_of_mem_above habove
  obtain ⟨p, hp⟩ := ht.placed (Forest.contains_of_value? hstands.node)
  obtain ⟨rfl, -⟩ := LiveNode.mk.inj (Option.some.inj (hstands.node.symm.trans hp.1))
  refine ⟨p.kind, n, hstands, ?_⟩
  rw [hp.parentKind?_eq ht, DiscoveredObject.canAppearUnder_above]
  simpa using .inl hcolumn

/-- What a fully named object is listed with is loose beside no schema of another catalog. -/
theorem FullyNamed.spillsTogether (ht : t.WellFormed) {id c : Nat} (hnamed : t.FullyNamed id)
    {kind : ObjectKind} {n x : String} (hid : t.Stands (t.parent? id) kind n id)
    (hcan : kind.canAppearUnder (t.parentKind? id) = true) (hk : kind.isContainer = false)
    (hc : t.Stands none .catalog x c) (hplace : t.listedPlace id kind = some c) :
    t.SpillsTogether x := by
  have htable : RuleSubject.table ≠ .column := by simp
  cases kind with
  | catalog | schema => cases hk
  | table => exact ht.spillsTogether htable hc ⟨hid.node, hplace, hid.named⟩
  | procedure =>
    have hprocedure : RuleSubject.procedure ≠ .column := by simp
    exact ht.spillsTogether hprocedure hc ⟨hid.node, hplace, hid.named⟩
  | column =>
    rw [listedPlace, if_pos rfl] at hplace
    obtain ⟨p, hp, hpc⟩ := Option.bind_eq_some_iff.1 hplace
    have hancestors : t.ancestors id = p :: t.ancestors p :=
      Forest.ancestors_of_parent? ht.links hp
    obtain ⟨kind, table, hstands⟩ := hnamed.stands (a := p) (by simp [hancestors])
    rw [parentKind?, hp, Option.bind_some, hstands.node] at hcan
    cases kind <;> cases hcan
    exact ht.spillsTogether htable hc ⟨hstands.node, hpc, hstands.named⟩

/-- An object that stands in named places and may stand there is included. -/
theorem decide_scaffold_of_standsFor (ht : t.WellFormed) (hliteral : t.Literal) {id : Nat}
    {o : DiscoveredObject} (h : t.StandsFor id o) (hnamed : t.FullyNamed id)
    (hcan : o.kind.canAppearUnder (t.parentKind? id) = true) :
    t.scaffold.compile.sieve.decide o.path o.kind = .ok .included := by
  obtain ⟨kind, n, hid⟩ := hnamed.stands List.mem_cons_self
  have hnode := Option.some.inj (h.1.symm.trans hid.node)
  obtain ⟨rfl, hname⟩ := LiveNode.mk.inj hnode
  have hdecide := decide_scaffold ht.links hliteral hid hcan (hnamed.regular ht h)
    fun c x hk hc hplace => hnamed.spillsTogether ht hid hcan hk hc hplace
  rw [← Membership.ofResult_eq_included_iff, ← h.ofResult_decide ht, hname, hdecide]
  rfl

/-- Whether a place is the top, or a catalog or schema in named places. -/
def NamedPlace (t : LiveTree) (place : Option Nat) : Prop :=
  ∀ id, place = some id → t.FullyNamed id ∧
    ∃ node, t.node? id = some node ∧ node.kind.isContainer = true

theorem NamedPlace.exists_placeChain (ht : t.WellFormed) {place : Option Nat}
    (h : t.NamedPlace place) :
    ∃ catalog schema, Text.nonBlank catalog = catalog ∧ Text.nonBlank schema = schema ∧
      t.chain place = placeChain catalog schema := by
  rcases place with _ | id
  · exact ⟨none, none, rfl, rfl, rfl⟩
  · obtain ⟨hnamed, node, hn, hk⟩ := h id rfl
    obtain ⟨⟨kind, oname, ocatalog, oschema, otable⟩, ho⟩ :=
      ht.placed (Forest.contains_of_value? hn)
    have hkind : node = ⟨kind, oname⟩ := Option.some.inj (hn.symm.trans ho.1)
    subst hkind
    have hchain : t.chain (some id) = ⟨kind, oname⟩ :: placeChain
        (if kind = .catalog then none else ocatalog) none := by
      rw [chain_of_node? ht hn, ho.2, above_eq]
      cases kind <;> first | rfl | cases hk
    have hname := hnamed.chain (hchain ▸ List.mem_cons_self)
    obtain ⟨name, hname⟩ := Option.isSome_iff_exists.1 hname
    obtain ⟨rfl, hb⟩ := Text.nonBlank_eq_some_iff.1 hname
    have habove := nonBlank_eq_of_placeChain fun n hn =>
      hnamed.chain (hchain ▸ List.mem_cons_of_mem _ hn)
    cases kind with
    | catalog => exact ⟨some name, none, hname, rfl, hchain⟩
    | schema => exact ⟨ocatalog, some name, habove.1, hname, hchain⟩
    | table | column | procedure => cases hk

theorem linksTo_eq {place : Option Nat} (hc : t.chain place = placeChain catalog schema)
    (n : String) :
    ObjectPath.ofLinks n (t.linksTo place)
      = ⟨Text.nonBlank catalog, Text.nonBlank schema, none, some n⟩ := by
  have hlinks : t.linksTo place = ((t.chain place).filterMap LiveNode.link?).reverse := by
    rcases place with _ | id
    · rfl
    · have hhead : (t.link? id).toList = [id].filterMap t.link? := by
        rcases h : t.link? id <;> simp [h]
      rw [linksTo, Option.elim_some, linksAbove, hhead, ← List.filterMap_append,
        ← List.reverse_cons, List.filterMap_reverse, filterMap_link?]
      rfl
  have habove : (⟨.table, none, catalog, schema, none⟩ : DiscoveredObject).above
      = placeChain catalog schema := above_eq _
  rw [hlinks, hc, ← habove]
  exact ObjectPath.ofLinks_linksAbove _ n

theorem has_iff_mem_under (ht : t.WellFormed) {place : Option Nat}
    (hplace : t.forest.IsPlace place)
    (hcatalog : Text.nonBlank catalog = catalog) (hschema : Text.nonBlank schema = schema)
    (hc : t.chain place = placeChain catalog schema) {kind : ObjectKind} {n : String}
    (hb : Text.isBlank n = false) :
    t.Has catalog schema kind n ↔
      ∃ v ∈ t.forest.under place, t.node? v = some ⟨kind, some n⟩ := by
  constructor
  · rintro ⟨-, -, -, id, hn, hid⟩
    refine ⟨id, ht.links.mem_under.2 ⟨Forest.contains_of_value? hn, ?_⟩, hn⟩
    exact eq_of_chain_eq ht (fun n hn => isSome_of_mem_placeChain hn)
      (ht.links.isPlace_parent? id) hplace hid hc
  · rintro ⟨id, hid, hn⟩
    refine ⟨hcatalog, hschema, hb, id, hn, ?_⟩
    rw [show t.parent? id = place from (ht.links.mem_under.1 hid).2, hc]

/-- Whether a sieve lets in what a live tree holds: the nodes in named places, and where such a
place holds a table or a procedure, no other of its kind. Where it holds none, none is listed
either, and a list without includes lets all pass. -/
structure Exact (t : LiveTree) (s : Sieve) : Prop where
  covers : ∀ (shapes : List Shape) (id : Nat) (node : LiveNode), t.node? id = some node →
    t.FullyNamed id → node.kind.canAppearUnder (t.parentKind? id) = true →
      (t.reconcile s shapes).membership? id = some .included
  nothingElse : ∀ (place : Option Nat) (subject : RuleSubject), t.NamedPlace place →
    subject ≠ .column →
      (∃ v ∈ t.forest.under place, ∃ m, t.node? v = some ⟨subject.kind, some m⟩ ∧
        Text.isBlank m = false) →
      ∀ n, Text.isBlank n = false →
        (s.decide (.ofLinks n (t.linksTo place)) subject.kind = .ok .included ↔
          ∃ v ∈ t.forest.under place, t.node? v = some ⟨subject.kind, some n⟩)

/-- The scaffold of any list of discovered objects is exact. -/
theorem scaffold_exact (objects : List DiscoveredObject) (h : (ofObjects objects).Literal) :
    (ofObjects objects).Exact (ofObjects objects).scaffold.compile.sieve := by
  have ht := ofObjects_wellFormed objects
  constructor
  · intro shapes id node hn hnamed hcan
    obtain ⟨o, ho⟩ := ht.placed (Forest.contains_of_value? hn)
    obtain rfl : node = ⟨o.kind, o.name⟩ := Option.some.inj (hn.symm.trans ho.1)
    rw [membership?_reconcile ht ho, decide_scaffold_of_standsFor ht h ho hnamed hcan]
    rfl
  · rintro place subject hplace hs ⟨v, hv, m, hm, hmb⟩ n hb
    obtain ⟨catalog, schema, hcatalog, hschema, hc⟩ := hplace.exists_placeChain ht
    have hstands : (ofObjects objects).forest.IsPlace place := by
      intro p hp
      obtain ⟨-, node, hn, -⟩ := hplace p hp
      exact Forest.contains_of_value? hn
    have hhas := (has_iff_mem_under ht hstands hcatalog hschema hc hmb).2 ⟨v, hv, hm⟩
    rw [linksTo_eq hc, ← has_iff_mem_under ht hstands hcatalog hschema hc hb]
    refine decide_scaffold_iff ht h subject hs hhas ?_ ?_ (Text.nonBlank_some hb)
    · rw [Text.nonBlank_nonBlank, hcatalog]
    · rw [Text.nonBlank_nonBlank, hschema]

/-- A schema in a catalog and one beside it, tables at every depth, one of them with a dot in its
name, and a procedure; the table of a column is implied. -/
def mixedDepths : List DiscoveredObject :=
  [⟨.table, some "A.B", some "SALES", some "EU", none⟩,
    ⟨.table, some "T", some "SALES", none, none⟩,
    ⟨.column, some "K", none, some "EU", some "T"⟩, ⟨.procedure, some "P", none, some "EU", none⟩,
    ⟨.schema, none, none, none, none⟩, ⟨.table, some "T", none, none, none⟩]

theorem mixedDepths_literal : (ofObjects mixedDepths).Literal :=
  .of_anchored ["A.B", "T", "P"] (by decide +kernel) (by decide +kernel)

theorem scaffold_exact_mixedDepths :
    (ofObjects mixedDepths).Literal ∧
      (ofObjects mixedDepths).Exact (ofObjects mixedDepths).scaffold.compile.sieve :=
  ⟨mixedDepths_literal, scaffold_exact mixedDepths mixedDepths_literal⟩

-- Where nothing was discovered no table is listed, and every table passes.
example : (ofObjects []).scaffold.compile.sieve.decide ⟨none, none, none, some "T"⟩ .table
    = .ok .included := by
  decide +kernel

end LiveTree

end SchemaSieve
