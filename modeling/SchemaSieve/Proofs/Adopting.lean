import Mathlib.Tactic
import SchemaSieve.Proofs.Chains
import SchemaSieve.Proofs.Grafting
import SchemaSieve.Proofs.Orderly

/-!
# Adopting live nodes

A live node becomes at most one rule (`Becomes`), and a rule has at most one place near a target
(`hostFor?`). Where both are known, adopting plants the rule at the end of the place, finds it there
or is refused for the place (`adopt_eq_of_host`); otherwise it is refused before the place is looked
at. The root can contain every rule, so the way to the parent of a target is never taken from there.
-/

namespace SchemaSieve

/-! ## What live nodes become -/

/-- Whether a live node becomes a rule of a polarity. A namespace that is included becomes one of
the same name, other objects become a rule whose pattern is the escaped name. -/
def LiveTree.Becomes (live : LiveTree) (id : Nat) (polarity : Polarity) (rule : RuleNode) : Prop :=
  ∃ node name, live.node? id = some node ∧ node.name = some name ∧ Text.isBlank name = false ∧
    rule.family? = some node.kind ∧
    if node.kind.isContainer then polarity = .includes ∧ rule.label? = some name
    else rule.polarity? = some polarity ∧ rule.label? = some (Regex.escape name)

namespace LiveTree

variable {live : LiveTree} {id : Nat} {node : LiveNode} {polarity : Polarity} {rule : RuleNode}

theorem becomes_iff (hv : live.node? id = some node) :
    live.Becomes id polarity rule ↔ node.rule? polarity = some rule ∧
      (node.kind.isContainer && polarity == .excludes) = false := by
  simp only [LiveNode.rule?, Option.map_eq_some_iff, Text.nonBlank_eq_some_iff]
  constructor
  · rintro ⟨node', name, hv', hname, hblank, hfamily, hrule⟩
    obtain rfl := Option.some.inj (hv'.symm.trans hv)
    refine ⟨⟨name, ⟨hname, hblank⟩, ?_⟩, ?_⟩
    · rcases hk : node'.kind <;> rcases rule with _ | _ | _ | ⟨_ | _ | _, _, _⟩ <;>
        simp_all [RuleNode.ofKind?, RuleSubject.ofKind?, RuleNode.family?, RuleNode.label?,
          RuleNode.polarity?, ObjectKind.isContainer, RuleSubject.kind, literalSource,
          RuleNode.containerName?, Text.nonBlank_eq_some_iff]
    · rcases hk : node'.kind <;> simp_all [ObjectKind.isContainer]
  · rintro ⟨⟨name, ⟨hname, hblank⟩, rfl⟩, hpolarity⟩
    refine ⟨node, name, hv, hname, hblank, ?_⟩
    rcases hk : node.kind <;> cases polarity <;>
      simp_all [RuleNode.ofKind?, RuleSubject.ofKind?, RuleNode.family?, RuleNode.label?,
        RuleNode.polarity?, ObjectKind.isContainer, RuleSubject.kind, literalSource,
        RuleNode.containerName?, Text.nonBlank_some]

theorem Becomes.exists_node (h : live.Becomes id polarity rule) :
    ∃ node, live.node? id = some node ∧ node.rule? polarity = some rule ∧
      (node.kind.isContainer && polarity == .excludes) = false := by
  have hbecomes := h
  obtain ⟨node, -, hv, -⟩ := h
  exact ⟨node, hv, (becomes_iff hv).1 hbecomes⟩

theorem Becomes.ne_root (h : live.Becomes id polarity rule) : rule ≠ .root := by
  rintro rfl
  obtain ⟨_, _, -, -, -, hfamily, -⟩ := h
  cases hfamily

end LiveTree

namespace RuleTree

variable {t t' : RuleTree} {target id place : Nat} {rule holder above : RuleNode}
  {live : LiveTree} {polarity : Polarity}

/-! ## Places for rules -/

/-- The node that is to hold a rule: the target if it can contain the rule, otherwise its parent. -/
def hostFor? (t : RuleTree) (target : Nat) (rule : RuleNode) : Option Nat :=
  (t.node? target).bind fun holder =>
    if holder.canContain rule then some target else t.parent? target

/-- There is a place near every target: only the root has no parent, and it contains every rule. -/
theorem WellFormed.exists_host (ht : t.WellFormed) (hn : t.node? target = some holder)
    (hrule : rule ≠ .root) :
    ∃ place above, t.hostFor? target rule = some place ∧ t.node? place = some above := by
  rw [hostFor?, hn, Option.bind_some]
  split_ifs with hcan
  · exact ⟨target, holder, rfl, hn⟩
  · have hroot : target ≠ rootId := by
      rintro rfl
      rw [ht.node?_root, Option.some.injEq] at hn
      subst hn
      cases rule <;> simp_all [RuleNode.canContain]
    obtain ⟨p, hp⟩ := ht.under (Forest.contains_of_value? hn) hroot
    obtain ⟨above, habove⟩ := Forest.contains_iff_value?.1 (ht.links.parent hp).2
    exact ⟨p, above, hp, habove⟩

/-- Neither the target nor its parent can contain a rule exactly if the place near the target
cannot. -/
theorem canContain_host_eq_false_iff (hhost : t.hostFor? target rule = some place)
    (habove : t.node? place = some above) :
    above.canContain rule = false ↔ ∀ i node, (i = target ∨ t.parent? target = some i) →
      t.node? i = some node → node.canContain rule = false := by
  obtain ⟨holder, hn, hplace⟩ := Option.bind_eq_some_iff.1 hhost
  constructor
  · intro hcan i node hi hnode
    split_ifs at hplace with hholder
    · obtain rfl := Option.some.inj hplace
      rw [Option.some.inj (habove.symm.trans hn), hholder] at hcan
      cases hcan
    · rcases hi with rfl | hi
      · rw [Option.some.inj (hnode.symm.trans hn)]
        exact Bool.not_eq_true _ ▸ hholder
      · obtain rfl := Option.some.inj (hi.symm.trans hplace)
        rw [Option.some.inj (hnode.symm.trans habove), hcan]
  · intro hnone
    split_ifs at hplace with hholder
    · exact hnone place above (.inl (Option.some.inj hplace).symm) habove
    · exact hnone place above (.inr hplace) habove

/-- Whether a tree is another with one new node at the end of a place. -/
structure Planted (t : RuleTree) (place : Nat) (node : RuleNode) (new : Nat) (t' : RuleTree) :
    Prop where
  fresh : t.forest.contains new = false
  node : t'.node? new = some node
  parent : t'.parent? new = some place
  last : t'.children place = t.children place ++ [new]
  leaf : t'.children new = []
  others : ∀ i, i ≠ new → t'.node? i = t.node? i ∧ t'.parent? i = t.parent? i ∧
    (i ≠ place → t'.children i = t.children i)

theorem planted (hp : t.forest.contains place = true) (node : RuleNode) :
    t.Planted place node t.nextId (t.plant place node) := by
  have hne : place ≠ t.nextId := Forest.ne_size_of_contains hp
  have hchildren : ∀ i, (t.plant place node).children i
      = t.children i ++ if some place = some i then [t.nextId] else [] := fun i =>
    Forest.under_plant (Forest.isPlace_some.2 hp) node (some i)
  refine ⟨?_, ?_, ?_, ?_, ?_, fun i hi => ⟨?_, ?_, fun hplace => ?_⟩⟩
  · rw [Bool.eq_false_iff]
    exact fun hnew => Forest.ne_size_of_contains hnew rfl
  · exact (Forest.value?_plant t.forest (some place) node _).trans (if_pos rfl)
  · exact (Forest.parent?_plant t.forest (some place) node _).trans (if_pos rfl)
  · rw [hchildren, if_pos rfl]
  · rw [hchildren, if_neg (by simpa using hne), List.append_nil]
    exact Forest.children_eq_nil (Forest.contains_size t.forest)
  · exact (Forest.value?_plant t.forest (some place) node i).trans (if_neg hi)
  · exact (Forest.parent?_plant t.forest (some place) node i).trans (if_neg hi)
  · rw [hchildren, if_neg (by simpa using hplace.symm), List.append_nil]

/-! ## Adopting -/

theorem insert_eq_of_node? (hn : t.node? place = some above) :
    t.insert place rule = if above.canContain rule then
        if (t.findChild? place rule).isSome then .error (.duplicate above rule)
        else .ok (t.nextId, t.plant place rule)
      else .error (.misplaced above rule) := by
  simp only [insert, hn]
  cases hcan : above.canContain rule
  · simp
  · simp [RuleNode.sameAs_of_canContain hcan, attach, Forest.contains_of_value? hn]

/-- What adopting does when the rule and its place are known. -/
theorem adopt_eq_of_host (hrule : live.Becomes id polarity rule)
    (hhost : t.hostFor? target rule = some place) (habove : t.node? place = some above) :
    t.adopt target live id polarity = if above.canContain rule then
        if (t.findChild? place rule).isSome then .ok (none, t)
        else .ok (some t.nextId, t.plant place rule)
      else .error (.edit (.misplaced above rule)) := by
  obtain ⟨node, hv, hbecomes, hpolarity⟩ := hrule.exists_node
  obtain ⟨holder, hn, hplace⟩ := Option.bind_eq_some_iff.1 hhost
  have hnear : (if holder.canContain rule then target else (t.parent? target).getD target)
      = place := by
    split_ifs at hplace ⊢
    · exact Option.some.inj hplace
    · rw [hplace, Option.getD_some]
  simp only [adopt, hv, hbecomes, hpolarity, hn, hnear, insert_eq_of_node? habove]
  cases above.canContain rule <;> cases (t.findChild? place rule).isSome <;> rfl

/-- Why adopting is refused, in the order of the checks. -/
inductive Refuses (t : RuleTree) (target : Nat) (live : LiveTree) (id : Nat) (polarity : Polarity) :
    AdoptError → Prop where
  | unknownLiveNode (hv : live.node? id = none) :
    Refuses t target live id polarity (.unknownLiveNode id)
  | nameless {node : LiveNode} (hv : live.node? id = some node)
    (hname : Text.nonBlank node.name = none) :
    Refuses t target live id polarity (.nameless (live.displayPath id))
  | excludedContainer {node : LiveNode} {name : String} (hv : live.node? id = some node)
    (hname : Text.nonBlank node.name = some name) (hkind : node.kind.isContainer = true)
    (hpolarity : polarity = .excludes) :
    Refuses t target live id polarity (.excludedContainer node.kind)
  | unknownTarget {rule : RuleNode} (hrule : live.Becomes id polarity rule)
    (hn : t.forest.contains target = false) :
    Refuses t target live id polarity (.edit (.unknownNode target))
  | misplaced {rule above : RuleNode} {place : Nat} (hrule : live.Becomes id polarity rule)
    (hhost : t.hostFor? target rule = some place) (habove : t.node? place = some above)
    (hcan : above.canContain rule = false) :
    Refuses t target live id polarity (.edit (.misplaced above rule))

theorem Refuses.adopt_eq {e : AdoptError} (h : t.Refuses target live id polarity e) :
    t.adopt target live id polarity = .error e := by
  cases h with
  | unknownLiveNode hv => simp only [adopt, hv]
  | nameless hv hname => simp only [adopt, hv, LiveNode.rule?, hname, Option.map_none]
  | excludedContainer hv hname hkind hpolarity =>
    simp only [adopt, hv, LiveNode.rule?, hname, Option.map_some, hkind, hpolarity,
      beq_self_eq_true, Bool.and_self, if_true]
  | unknownTarget hrule hn =>
    obtain ⟨node, hv, hbecomes, hpolarity⟩ := hrule.exists_node
    have hnone : t.node? target = none := Forest.value?_eq_none_iff.2 hn
    simp only [adopt, hv, hbecomes, hpolarity, hnone, Bool.false_eq_true, if_false]
  | misplaced hrule hhost habove hcan =>
    rw [adopt_eq_of_host hrule hhost habove, hcan, if_neg Bool.false_ne_true]

/-- A call is refused, finds the rule in the place near the target, or plants it there. -/
theorem WellFormed.adopt_cases (ht : t.WellFormed) (target : Nat) (live : LiveTree) (id : Nat)
    (polarity : Polarity) :
    (∃ e, t.Refuses target live id polarity e) ∨
      ∃ rule place above, live.Becomes id polarity rule ∧ t.hostFor? target rule = some place ∧
        t.node? place = some above ∧ above.canContain rule = true := by
  rcases hv : live.node? id with _ | node
  · exact .inl ⟨_, .unknownLiveNode hv⟩
  · rcases hname : Text.nonBlank node.name with _ | name
    · exact .inl ⟨_, .nameless hv hname⟩
    · by_cases hexcluded : node.kind.isContainer = true ∧ polarity = .excludes
      · exact .inl ⟨_, .excludedContainer hv hname hexcluded.1 hexcluded.2⟩
      · obtain ⟨rule, hrule⟩ : ∃ rule, node.rule? polarity = some rule := by
          simp only [LiveNode.rule?, hname, Option.map_some, Option.some.injEq, exists_eq']
        have hbecomes : live.Becomes id polarity rule :=
          (LiveTree.becomes_iff hv).2 ⟨hrule, by simpa using hexcluded⟩
        rcases hn : t.node? target with _ | holder
        · exact .inl ⟨_, .unknownTarget hbecomes (Forest.value?_eq_none_iff.1 hn)⟩
        · obtain ⟨place, above, hhost, habove⟩ := ht.exists_host hn hbecomes.ne_root
          cases hcan : above.canContain rule
          · exact .inl ⟨_, .misplaced hbecomes hhost habove hcan⟩
          · exact .inr ⟨rule, place, above, hbecomes, hhost, habove, hcan⟩

/-- What is known when a call is not refused. -/
theorem WellFormed.adopt_ok (ht : t.WellFormed) {new : Option Nat}
    (h : t.adopt target live id polarity = .ok (new, t')) :
    ∃ rule place, live.Becomes id polarity rule ∧ t.hostFor? target rule = some place ∧
      t.forest.contains place = true ∧
        ((∃ found, t.findChild? place rule = some found ∧ new = none ∧ t' = t) ∨
          (t.findChild? place rule = none ∧ new = some t.nextId ∧ t' = t.plant place rule)) := by
  obtain ⟨e, he⟩ | ⟨rule, place, above, hrule, hhost, habove, hcan⟩ :=
    ht.adopt_cases target live id polarity
  · rw [he.adopt_eq] at h
    cases h
  · refine ⟨rule, place, hrule, hhost, Forest.contains_of_value? habove, ?_⟩
    rw [adopt_eq_of_host hrule hhost habove, if_pos hcan] at h
    rcases hfind : t.findChild? place rule with _ | found <;> rw [hfind] at h <;> cases h
    · exact .inr ⟨rfl, rfl, rfl⟩
    · exact .inl ⟨found, rfl, rfl, rfl⟩

theorem WellFormed.exists_refuses_iff (ht : t.WellFormed) :
    (∃ e, t.Refuses target live id polarity e) ↔
      live.node? id = none ∨
      (∃ node, live.node? id = some node ∧ Text.nonBlank node.name = none) ∨
      (∃ node, live.node? id = some node ∧ node.kind.isContainer = true ∧ polarity = .excludes) ∨
      t.forest.contains target = false ∨
      ∃ rule, live.Becomes id polarity rule ∧ ∀ i node, (i = target ∨ t.parent? target = some i) →
        t.node? i = some node → node.canContain rule = false := by
  constructor
  · rintro ⟨e, h⟩
    cases h with
    | unknownLiveNode hv => exact .inl hv
    | nameless hv hname => exact .inr (.inl ⟨_, hv, hname⟩)
    | excludedContainer hv _ hkind hpolarity => exact .inr (.inr (.inl ⟨_, hv, hkind, hpolarity⟩))
    | unknownTarget _ hn => exact .inr (.inr (.inr (.inl hn)))
    | misplaced hrule hhost habove hcan =>
      exact .inr (.inr (.inr (.inr ⟨_, hrule, (canContain_host_eq_false_iff hhost habove).1 hcan⟩)))
  · intro h
    obtain he | ⟨rule, place, above, hrule, hhost, habove, hcan⟩ :=
      ht.adopt_cases target live id polarity
    · exact he
    · -- A rule and a place that can contain it leave no reason to refuse.
      exfalso
      obtain ⟨node, hv, hbecomes, hpolarity⟩ := hrule.exists_node
      obtain ⟨holder, hn, -⟩ := Option.bind_eq_some_iff.1 hhost
      rcases h with hnone | ⟨node', hv', hnone⟩ | ⟨node', hv', hkind, hexcludes⟩ | hnone |
        ⟨rule', hrule', hnone⟩
      · rw [hv] at hnone
        cases hnone
      · obtain rfl := Option.some.inj (hv'.symm.trans hv)
        simp [LiveNode.rule?, hnone] at hbecomes
      · obtain rfl := Option.some.inj (hv'.symm.trans hv)
        simp [hkind, hexcludes] at hpolarity
      · rw [Forest.contains_of_value? hn] at hnone
        cases hnone
      · obtain ⟨hbecomes', -⟩ := (LiveTree.becomes_iff hv).1 hrule'
        obtain rfl := Option.some.inj (hbecomes'.symm.trans hbecomes)
        rw [(canContain_host_eq_false_iff hhost habove).2 hnone] at hcan
        cases hcan

/-- Adopting plants one rule at the end of the place near the target, finds one there that says the
same and changes nothing, or is refused and changes nothing. -/
theorem Reachable.adopt_exact (ht : t.Reachable) (target : Nat) (live : LiveTree) (id : Nat)
    (polarity : Polarity) :
    (∀ new t', t.adopt target live id polarity = .ok (some new, t') →
        ∃ rule place, live.Becomes id polarity rule ∧ t.hostFor? target rule = some place ∧
          t.Planted place rule new t') ∧
      (∀ t', t.adopt target live id polarity = .ok (none, t') →
        t' = t ∧ ∃ rule place, live.Becomes id polarity rule ∧
          t.hostFor? target rule = some place ∧
            ∃ c node, (c, node) ∈ t.childNodes place ∧ node.form = rule.form ∧
              node.label? = rule.label?) ∧
      (∀ e, t.adopt target live id polarity = .error e ↔ t.Refuses target live id polarity e) ∧
      (∀ e, t.adopt target live id polarity = .error e →
        t.edited (.adopt target live id polarity) = t) ∧
      ((∃ e, t.adopt target live id polarity = .error e) ↔
        live.node? id = none ∨
        (∃ node, live.node? id = some node ∧ Text.nonBlank node.name = none) ∨
        (∃ node, live.node? id = some node ∧ node.kind.isContainer = true ∧
          polarity = .excludes) ∨
        t.forest.contains target = false ∨
        ∃ rule, live.Becomes id polarity rule ∧
          ∀ i node, (i = target ∨ t.parent? target = some i) → t.node? i = some node →
            node.canContain rule = false) := by
  have herror : ∀ e, t.adopt target live id polarity = .error e ↔
      t.Refuses target live id polarity e := by
    refine fun e => ⟨fun he => ?_, Refuses.adopt_eq⟩
    obtain ⟨e', hrefuses⟩ | ⟨rule, place, above, hrule, hhost, habove, hcan⟩ :=
      ht.wellFormed.adopt_cases target live id polarity
    · rw [hrefuses.adopt_eq, Except.error.injEq] at he
      exact he ▸ hrefuses
    · rw [adopt_eq_of_host hrule hhost habove, if_pos hcan] at he
      split_ifs at he
  refine ⟨fun new t' h => ?_, fun t' h => ?_, herror, fun e he => ?_, ?_⟩
  · obtain ⟨rule, place, hrule, hhost, hplace, ⟨_, _, hnew, _⟩ | ⟨-, hnew, rfl⟩⟩ :=
      ht.wellFormed.adopt_ok h
    · cases hnew
    · obtain rfl := Option.some.inj hnew
      exact ⟨rule, place, hrule, hhost, planted hplace rule⟩
  · obtain ⟨rule, place, hrule, hhost, -, ⟨found, hfound, -, hsame⟩ | ⟨_, hnew, _⟩⟩ :=
      ht.wellFormed.adopt_ok h
    · obtain ⟨node, hmem, hsays⟩ := findChild?_eq_some hfound
      obtain ⟨hform, hlabel⟩ := RuleNode.sameAs_iff.1 hsays
      exact ⟨hsame, rule, place, hrule, hhost, found, node, hmem, hform, hlabel⟩
    · cases hnew
  · rw [RuleTree.edited, he]
    rfl
  · rw [← ht.wellFormed.exists_refuses_iff]
    exact exists_congr herror

/-- A single table. -/
def ordersLive : LiveTree := .ofObjects [⟨.table, some "ORDERS", none, none, none⟩]

/-- A rule that holds no others: what is adopted there goes beside it. -/
def tmpRules : RuleTree := empty.run [.attach 0 (.excludeTable "TMP.*")]

theorem adopt_exact_tmpRules :
    tmpRules.Reachable ∧
      (∃ t', tmpRules.adopt 1 ordersLive 0 .includes = .ok (some 2, t') ∧
        tmpRules.Planted 0 (.includeTable "ORDERS") 2 t') ∧
      tmpRules.Refuses 7 ordersLive 0 .includes (.edit (.unknownNode 7)) := by
  have ht : tmpRules.Reachable := reachable_run .empty _
  have hnew : (tmpRules.adopt 1 ordersLive 0 .includes).map (·.1) = .ok (some 2) := by
    decide +kernel
  have hstray : (tmpRules.adopt 7 ordersLive 0 .includes).map (·.1)
      = .error (.edit (.unknownNode 7)) := by
    decide +kernel
  have hv : ordersLive.node? 0 = some ⟨.table, some "ORDERS"⟩ := by decide +kernel
  have hrule : LiveNode.rule? ⟨.table, some "ORDERS"⟩ .includes =
      some (.includeTable "ORDERS") := by
    decide +kernel
  have hhost : tmpRules.hostFor? 1 (.includeTable "ORDERS") = some 0 := by decide +kernel
  refine ⟨ht, ?_, ?_⟩
  · rcases hadopt : tmpRules.adopt 1 ordersLive 0 .includes with _ | ⟨new, t'⟩ <;>
      rw [hadopt] at hnew
    · cases hnew
    · obtain rfl : new = some 2 := Except.ok.inj hnew
      obtain ⟨rule, place, hbecomes, hplace, hplanted⟩ :=
        (ht.adopt_exact 1 ordersLive 0 .includes).1 2 t' hadopt
      obtain rfl := Option.some.inj (hrule.symm.trans ((LiveTree.becomes_iff hv).1 hbecomes).1)
      obtain rfl := Option.some.inj (hhost.symm.trans hplace)
      exact ⟨t', rfl, hplanted⟩
  · rcases hadopt : tmpRules.adopt 7 ordersLive 0 .includes with e | _ <;> rw [hadopt] at hstray
    · obtain rfl := Except.error.inj hstray
      exact ((ht.adopt_exact 7 ordersLive 0 .includes).2.2.1 _).1 hadopt
    · cases hstray

end RuleTree

end SchemaSieve
