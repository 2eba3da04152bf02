import Mathlib.Tactic
import SchemaSieve.Proofs.Adopting
import SchemaSieve.Proofs.NewRules
import SchemaSieve.Proofs.Undetermined
import SchemaSieve.Proofs.Unused

/-!
# What adopting decides

A table or procedure that is adopted into a container that applies to it leaves a tree that gains
the rule of its name, whether the rule was planted or found (`exists_adopt_gains`). Adopted against,
the object is excluded whatever other rules there are, and nothing changes but what has its kind
and its name; otherwise it is included unless it is excluded by another rule
(`Reachable.adopt_decides`).
-/

namespace SchemaSieve

namespace LiveTree

variable {live : LiveTree} {v : Nat} {subject : RuleSubject} {name : String}

/-- Where discovery puts a table or a procedure, it may stand. -/
theorem WellFormed.parentKind?_mem_places (hlive : live.WellFormed) (hs : subject ≠ .column)
    {name : Option String} (hv : live.node? v = some ⟨subject.kind, name⟩) :
    live.parentKind? v ∈ subject.kind.places := by
  obtain ⟨o, ho⟩ := hlive.placed (Forest.contains_of_value? hv)
  obtain ⟨hkind, -⟩ := LiveNode.mk.inj (Option.some.inj (hv.symm.trans ho.1))
  have hcolumn : o.kind ≠ .column := hkind ▸ RuleSubject.kind_ne_column hs
  rw [ho.parentKind?_eq hlive, ← ObjectKind.canAppearUnder_iff, hkind, o.canAppearUnder_above]
  simp [hcolumn]

/-- The path by which a table or a procedure is decided. -/
def pathAt (live : LiveTree) (v : Nat) (name : String) : ObjectPath :=
  ⟨live.nearest? .catalog v, live.nearest? .schema v, live.nearest? .table v, some name⟩

theorem membership?_eq_decide (hlive : live.WellFormed) (hs : subject ≠ .column)
    (hv : live.node? v = some ⟨subject.kind, some name⟩) (hname : Text.isBlank name = false)
    (s : Sieve) (shapes : List Shape) :
    (live.reconcile s shapes).membership? v
      = some (Membership.ofResult (s.decide (live.pathAt v name) subject.kind)) := by
  rw [membership?_eq hlive.links hlive.complete s shapes hv,
    decide_eq_nearest? (Text.nonBlank_some hname) (hlive.parentKind?_mem_places hs hv), pathAt]

end LiveTree

namespace RuleTree

variable {t : RuleTree} {live : LiveTree} {target place v : Nat} {subject : RuleSubject}
  {polarity : Polarity} {name : String} {p : NamePattern}

/-- Whether a place is the root or a container that applies to a live node. -/
def AppliesTo (t : RuleTree) (live : LiveTree) (v place : Nat) : Prop :=
  place = rootId ∨ ∃ catalogKey schemaKey,
    t.Scoped (live.nearest? .catalog v) (live.nearest? .schema v) catalogKey schemaKey ∧
      t.Applies catalogKey schemaKey place

theorem AppliesTo.applies (h : t.AppliesTo live v place) {catalogKey schemaKey : Option String}
    (hscope : t.Scoped (live.nearest? .catalog v) (live.nearest? .schema v) catalogKey schemaKey) :
    t.Applies catalogKey schemaKey place := by
  rcases h with rfl | ⟨catalogKey', schemaKey', hscope', happ⟩
  · exact .inr (.inr rfl)
  · obtain rfl := hscope.1.unique hscope'.1
    obtain rfl := hscope.2.unique hscope'.2
    exact happ

theorem AppliesTo.isContainer (ht : t.WellFormed) (h : t.AppliesTo live v place) :
    ∃ above, t.node? place = some above ∧ above.isContainer = true := by
  rcases h with rfl | ⟨_, _, -, happ⟩
  · exact ⟨_, ht.node?_root, rfl⟩
  · exact happ.isContainer ht

/-- Adopting into a container succeeds, and whether the rule is planted or found, it is there. -/
theorem exists_adopt_gains (ht : t.WellFormed) (hs : subject ≠ .column)
    (hv : live.node? v = some ⟨subject.kind, some name⟩) (hname : Text.isBlank name = false)
    (hp : validPattern? (Regex.escape name) = some p)
    (hhost : t.hostFor? target (.rule subject polarity (Regex.escape name)) = some place)
    {above : RuleNode} (habove : t.node? place = some above)
    (hcontainer : above.isContainer = true) :
    ∃ new t', t.adopt target live v polarity = .ok (new, t') ∧
      t.Gains place subject polarity p t' := by
  have hbecomes : live.Becomes v polarity (.rule subject polarity (Regex.escape name)) := by
    refine ⟨_, name, hv, rfl, hname, rfl, ?_⟩
    have hleaf : subject.kind.isContainer = false := by cases subject <;> rfl
    rw [hleaf, if_neg Bool.false_ne_true]
    exact ⟨rfl, rfl⟩
  rw [adopt_eq_of_host hbecomes hhost habove, if_pos (RuleNode.canContain_rule hcontainer _ _ _)]
  rcases hfind : t.findChild? place (.rule subject polarity (Regex.escape name)) with _ | found
  · exact ⟨_, _, rfl, gains_plant ht (Forest.contains_of_value? habove) hp⟩
  · obtain ⟨node, hmem, hsays⟩ := findChild?_eq_some hfind
    obtain ⟨hform, hlabel⟩ := RuleNode.sameAs_iff.1 hsays
    obtain ⟨source, rfl⟩ := RuleNode.form_eq_rule_iff.1 hform
    obtain rfl : source = Regex.escape name := Option.some.inj hlabel
    obtain ⟨hparent, hnode⟩ := (mem_childNodes ht.links).1 hmem
    exact ⟨_, _, rfl, gains_of_hasRule ht ⟨found, _, hparent, hnode, hp⟩⟩

/-- Adopting a table or a procedure into a container that applies to it succeeds. Adopted against,
the object is excluded, and nothing changes but what has its kind and its name: that was included
and is excluded. Adopted for, the object is included exactly if its catalog and schema are looked up
and no rule that applies excludes it. -/
theorem Reachable.adopt_decides (ht : t.Reachable) (objects : List DiscoveredObject)
    (hs : subject ≠ .column)
    (hv : (LiveTree.ofObjects objects).node? v = some ⟨subject.kind, some name⟩)
    (hname : Text.isBlank name = false) (hliteral : LiteralExact name)
    (hhost : t.hostFor? target (.rule subject polarity (Regex.escape name)) = some place)
    (hplace : t.AppliesTo (.ofObjects objects) v place) :
    ∃ new t', t.adopt target (.ofObjects objects) v polarity = .ok (new, t') ∧
      (polarity = .excludes →
        (t'.annotated (.ofObjects objects)).membership? v = some .excluded ∧
          ∀ path kind, t'.compile.sieve.decide path kind ≠ t.compile.sieve.decide path kind →
            kind = subject.kind ∧ path.name = some name ∧
              t.compile.sieve.decide path kind = .ok .included ∧
                t'.compile.sieve.decide path kind = .ok .excluded) ∧
      (polarity = .includes →
        ((t'.annotated (.ofObjects objects)).membership? v = some .included ↔
          ∃ catalogKey schemaKey,
            t.Scoped ((LiveTree.ofObjects objects).nearest? .catalog v)
                ((LiveTree.ofObjects objects).nearest? .schema v) catalogKey schemaKey ∧
              ∀ i p, t.Applies catalogKey schemaKey i → t.HasRule i subject .excludes p →
                p.accepts name = false)) := by
  have hlive := LiveTree.ofObjects_wellFormed objects
  generalize LiveTree.ofObjects objects = live at *
  obtain ⟨p, hp, haccepts⟩ := hliteral.exists_validPattern? hname
  obtain ⟨above, habove, hcontainer⟩ := hplace.isContainer ht.wellFormed
  obtain ⟨new, t', hadopt, hgains⟩ :=
    exists_adopt_gains ht.wellFormed hs hv hname hp hhost habove hcontainer
  have hmembership := LiveTree.membership?_eq_decide hlive hs hv hname t'.compile.sieve t'.shapes
  have hpath : Text.nonBlank (live.pathAt v name).name = some name := Text.nonBlank_some hname
  have hself : p.accepts name = true := (haccepts name).2 rfl
  -- Whatever the keys of the object, the container of the rule applies under them.
  have happlies : ∀ catalogKey schemaKey,
      t.Scoped (Text.nonBlank (live.pathAt v name).catalog)
          (Text.nonBlank (live.pathAt v name).schema) catalogKey schemaKey →
        t.Applies catalogKey schemaKey place := by
    intro catalogKey schemaKey hscope
    simp only [LiveTree.pathAt, LiveTree.nonBlank_nearest?] at hscope
    exact hplace.applies hscope
  refine ⟨new, t', hadopt, ?_, ?_⟩
  · rintro rfl
    refine ⟨?_, fun path kind hne => ?_⟩
    · rw [annotated, hmembership, hgains.decide_excludes ht.wellFormed hs hpath hself happlies]
      rfl
    · obtain ⟨hkind, ⟨m, hm, hmaccepts⟩, hbefore, hafter⟩ :=
        hgains.excluded_of_decide_ne ht.wellFormed hs hne
      exact ⟨hkind, (haccepts m).1 hmaccepts ▸ hm, hbefore, hafter⟩
  · rintro rfl
    rw [annotated, hmembership, Option.some.injEq, Membership.ofResult_eq_included_iff,
      hgains.decide_includes_iff ht.wellFormed hs hpath hself happlies]
    simp only [LiveTree.pathAt, LiveTree.nonBlank_nearest?]

/-- A catalog of which one table is included. -/
def ordersRules : RuleTree :=
  empty.run [.attach 0 (.catalog (some "SALES")), .attach 1 (.includeTable "ORDERS")]

def ordersObjects : List DiscoveredObject := [⟨.table, some "ORDERS", some "SALES", none, none⟩]

/-- The include is the target, so the rule against the table goes beside it, into the catalog. -/
theorem adopt_decides_ordersRules :
    ordersRules.Reachable ∧
      (LiveTree.ofObjects ordersObjects).node? 1 = some ⟨.table, some "ORDERS"⟩ ∧
      LiteralExact "ORDERS" ∧ ordersRules.AppliesTo (.ofObjects ordersObjects) 1 1 ∧
      ∃ new t', ordersRules.adopt 2 (.ofObjects ordersObjects) 1 .excludes = .ok (new, t') ∧
        (t'.annotated (.ofObjects ordersObjects)).membership? 1 = some .excluded := by
  have ht : ordersRules.Reachable := reachable_run .empty _
  have hv : (LiveTree.ofObjects ordersObjects).node? 1 = some ⟨.table, some "ORDERS"⟩ := by
    decide +kernel
  have hliteral : LiteralExact "ORDERS" := .of_anchored (by decide +kernel)
  have hcatalog : ordersRules.LegalCatalog (some "SALES") 1 :=
    (mem_catalogs ht.wellFormed).1 (by decide +kernel)
  have hschemas : ∀ n, ¬ ∃ id, ordersRules.LegalSchema (some "SALES") (some n) id := by
    rintro n ⟨id, hschema⟩
    have hnone : ordersRules.candidates (some "SALES") = [] := by decide +kernel
    rw [← mem_candidates ht.wellFormed, hnone] at hschema
    cases hschema
  have hnearest : (LiveTree.ofObjects ordersObjects).nearest? .catalog 1 = some "SALES" := by
    decide +kernel
  have hplace : ordersRules.AppliesTo (.ofObjects ordersObjects) 1 1 := by
    refine .inr ⟨some "SALES", none, ⟨?_, ?_⟩, .inr (.inl hcatalog)⟩
    · rw [hnearest]
      exact .named ⟨1, hcatalog⟩
    · exact .wildcard (fun n _ => hschemas n) (.inl hschemas)
  have hhost : ordersRules.hostFor? 2 (.rule .table .excludes (Regex.escape "ORDERS")) =
      some 1 := by
    decide +kernel
  obtain ⟨new, t', hadopt, hexcludes, -⟩ :=
    ht.adopt_decides ordersObjects (by decide) hv (by decide +kernel) hliteral hhost hplace
  exact ⟨ht, hv, hliteral, hplace, new, t', hadopt, (hexcludes rfl).1⟩

end RuleTree

end SchemaSieve
