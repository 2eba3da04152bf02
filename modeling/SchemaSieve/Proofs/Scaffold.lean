import Mathlib.Tactic
import SchemaSieve.Proofs.Chains

/-!
# What scaffolding yields

Filling a container with live nodes lists them there, except for those that a named container beside
them hides; these move into a container without a name (`Sharing`). Each container that is listed or
made is filled in turn. `Yields` says which chains come of it, by recursion along the containers,
and the tree that scaffolding makes of any live tree holds just these (`scaffold_grows`).
-/

namespace SchemaSieve

/-! ## How live nodes are listed -/

/-- The namespace or rule that lists a live object of a kind with a name; a column is not listed. -/
def ObjectKind.listing? (kind : ObjectKind) (name : String) : Option RuleNode :=
  match kind with
  | .catalog => some (.catalog (some name))
  | .schema => some (.schema (some name))
  | .table => some (.includeTable (Regex.escape name))
  | .procedure => some (.includeProcedure (Regex.escape name))
  | .column => none

/-- Live nodes for one container: those that are listed in it, and those that move into another one
inside it. -/
structure Sharing where
  wildcard : RuleNode
  hidden : List Nat
  shown : List Nat

namespace LiveTree

/-- What lists a live node; nothing lists one without a name. -/
def listing? (t : LiveTree) (id : Nat) : Option RuleNode :=
  (t.node? id).bind fun n => (Text.nonBlank n.name).bind n.kind.listing?

theorem listing?_eq_some_iff {t : LiveTree} {id : Nat} {rule : RuleNode} :
    t.listing? id = some rule ↔
      ∃ kind name, t.node? id = some ⟨kind, some name⟩ ∧ Text.isBlank name = false ∧
        kind.listing? name = some rule := by
  simp only [listing?, Option.bind_eq_some_iff, Text.nonBlank_eq_some_iff]
  constructor
  · rintro ⟨⟨kind, name⟩, hn, n, ⟨rfl, hb⟩, hr⟩
    exact ⟨kind, n, hn, hb, hr⟩
  · rintro ⟨kind, n, hn, hb, hr⟩
    exact ⟨_, hn, n, ⟨rfl, hb⟩, hr⟩

theorem plain_of_listing? {t : LiveTree} {id : Nat} {rule : RuleNode}
    (h : t.listing? id = some rule) : rule.Plain := by
  obtain ⟨kind, name, -, hb, hr⟩ := listing?_eq_some_iff.1 h
  cases kind <;> cases hr
  · exact Text.nonBlank_some hb
  · exact Text.nonBlank_some hb
  · trivial
  · trivial

/-- How live nodes share a container. -/
def share (t : LiveTree) (holder : RuleNode) (members : List Nat) : Sharing :=
  match holder with
  | .root =>
    let outside := t.splitHidden .catalog members
    let loose := t.splitHidden .schema outside.2
    if outside.1.isEmpty then ⟨.schema none, loose.1, loose.2⟩
    else ⟨.catalog none, outside.1, outside.2⟩
  | .catalog _ =>
    ⟨.schema none, (t.splitHidden .schema members).1, (t.splitHidden .schema members).2⟩
  | _ => ⟨.schema none, [], members⟩

theorem share_catalog (t : LiveTree) (name : Option String) (members : List Nat) :
    t.share (.catalog name) members
      = ⟨.schema none, (t.splitHidden .schema members).1, (t.splitHidden .schema members).2⟩ :=
  rfl

theorem share_schema (t : LiveTree) (name : Option String) (members : List Nat) :
    t.share (.schema name) members = ⟨.schema none, [], members⟩ := rfl

/-- The chains that sharing adds below a container. -/
def Lists (t : LiveTree) (holder : RuleNode) (above : List RuleNode) (s : Sharing)
    (c : List RuleNode) : Prop :=
  (∃ m ∈ s.shown, ∃ rule, t.listing? m = some rule ∧ holder.canContain rule = true ∧
      c = rule :: holder :: above) ∨
    s.hidden ≠ [] ∧ c = s.wildcard :: holder :: above

/-- The containers that sharing opens below a container, with what they are filled with. -/
def Opens (t : LiveTree) (holder : RuleNode) (above : List RuleNode) (s : Sharing)
    (c : List RuleNode) (members : List Nat) : Prop :=
  (∃ m ∈ s.shown, ∃ rule, t.listing? m = some rule ∧ holder.canContain rule = true ∧
      rule.isContainer = true ∧ c = rule :: holder :: above ∧ members = t.children m) ∨
    s.hidden ≠ [] ∧ c = s.wildcard :: holder :: above ∧ members = s.hidden

/-- The chains that come of filling the container at the end of a chain with live nodes. -/
inductive Yields (t : LiveTree) : List RuleNode → List Nat → List RuleNode → Prop where
  | listed {holder : RuleNode} {above c : List RuleNode} {members : List Nat}
      (h : t.Lists holder above (t.share holder members) c) : Yields t (holder :: above) members c
  | inside {holder : RuleNode} {above c c' : List RuleNode} {members members' : List Nat}
      (h : t.Opens holder above (t.share holder members) c' members')
      (hinside : Yields t c' members' c) : Yields t (holder :: above) members c

theorem yields_iff {t : LiveTree} {holder : RuleNode} {above c : List RuleNode}
    {members : List Nat} :
    t.Yields (holder :: above) members c ↔
      t.Lists holder above (t.share holder members) c ∨
        ∃ c' members', t.Opens holder above (t.share holder members) c' members' ∧
          t.Yields c' members' c := by
  constructor
  · rintro (h | ⟨h, hinside⟩)
    · exact .inl h
    · exact .inr ⟨_, _, h, hinside⟩
  · rintro (h | ⟨_, _, h, hinside⟩)
    · exact .listed h
    · exact .inside h hinside

theorem Opens.lists {t : LiveTree} {holder : RuleNode} {above c : List RuleNode}
    {s : Sharing} {members : List Nat} (h : t.Opens holder above s c members) :
    t.Lists holder above s c := by
  rcases h with ⟨m, hm, rule, hr, hcan, -, hc, -⟩ | ⟨hh, hc, -⟩
  · exact .inl ⟨m, hm, rule, hr, hcan, hc⟩
  · exact .inr ⟨hh, hc⟩

end LiveTree

/-! ## Scaffoldings that grow -/

namespace Scaffolding

variable {s s' s'' : Scaffolding} {new new' : List RuleNode → Prop}
  {opens opens' : List RuleNode → List Nat → Prop}

/-- Whether a container with a chain is still to be filled with live nodes. -/
def Awaits (s : Scaffolding) (c : List RuleNode) (members : List Nat) : Prop :=
  ∃ id, (id, members) ∈ s.pending ∧ s.rules.chain id = c

/-- Whether the rules are tidy and each container that is to be filled stands. -/
structure Sound (s : Scaffolding) : Prop where
  tidy : s.rules.Tidy
  stands : ∀ e ∈ s.pending, s.rules.forest.contains e.1 = true

/-- Whether a scaffolding has become another by new chains and containers that were opened. -/
structure Grows (s s' : Scaffolding) (new : List RuleNode → Prop)
    (opens : List RuleNode → List Nat → Prop) : Prop where
  rules : s.rules.Grows s'.rules new
  stands : ∀ e ∈ s'.pending, s'.rules.forest.contains e.1 = true
  awaits : ∀ c members, s'.Awaits c members ↔ s.Awaits c members ∨ opens c members

namespace Grows

theorem refl (hs : s.Sound) : s.Grows s (fun _ => False) fun _ _ => False :=
  ⟨.refl hs.tidy, hs.stands, fun _ _ => (or_iff_left id).symm⟩

theorem trans (h : s.Grows s' new opens) (h' : s'.Grows s'' new' opens') :
    s.Grows s'' (fun c => new c ∨ new' c) fun c l => opens c l ∨ opens' c l :=
  ⟨h.rules.trans h'.rules, h'.stands, fun c l => by rw [h'.awaits, h.awaits, or_assoc]⟩

theorem congr (h : s.Grows s' new opens) (hnew : ∀ c, new c ↔ new' c)
    (hopens : ∀ c l, opens c l ↔ opens' c l) : s.Grows s' new' opens' :=
  ⟨h.rules.congr hnew, h.stands, fun c l => by rw [h.awaits, hopens]⟩

theorem sound (h : s.Grows s' new opens) : s'.Sound := ⟨h.rules.tidy, h.stands⟩

end Grows

/-- What is awaited does not depend on rules that were added since. -/
theorem awaits_of_grows (hs : s.Sound) {rules : RuleTree} (h : s.rules.Grows rules new)
    {c : List RuleNode} {members : List Nat} :
    (⟨rules, s.pending⟩ : Scaffolding).Awaits c members ↔ s.Awaits c members := by
  constructor
  · rintro ⟨id, hid, hc⟩
    rw [h.chain_eq hs.tidy (hs.stands _ hid)] at hc
    exact ⟨id, hid, hc⟩
  · rintro ⟨id, hid, hc⟩
    exact ⟨id, hid, (h.chain_eq hs.tidy (hs.stands _ hid)).trans hc⟩

theorem opened_grows (hs : s.Sound) {place : Nat} {holder node : RuleNode}
    (hplace : s.rules.node? place = some holder) (hcan : holder.canContain node = true)
    (hplain : node.Plain) (members : List Nat) :
    s.Grows (s.opened place node members) (· = node :: s.rules.chain place)
      fun c l => c = node :: s.rules.chain place ∧ l = members := by
  obtain ⟨id, rules, hget, hgrows, hid, hchain⟩ :=
    RuleTree.getOrInsert_spec hs.tidy hplace hcan hplain
  have hopened : s.opened place node members = ⟨rules, (id, members) :: s.pending⟩ := by
    simp [opened, hget]
  rw [hopened]
  refine ⟨hgrows, ?_, fun c l => ?_⟩
  · intro e he
    rcases List.mem_cons.1 he with rfl | he
    · exact hid
    · exact hgrows.contains (hs.stands e he)
  · rw [← awaits_of_grows hs hgrows]
    constructor
    · rintro ⟨i, hi, hc⟩
      rcases List.mem_cons.1 hi with heq | hi
      · obtain ⟨rfl, rfl⟩ := Prod.mk.inj heq
        exact .inr ⟨hc.symm.trans hchain, rfl⟩
      · exact .inl ⟨i, hi, hc⟩
    · rintro (⟨i, hi, hc⟩ | ⟨rfl, rfl⟩)
      · exact ⟨i, List.mem_cons_of_mem _ hi, hc⟩
      · exact ⟨id, List.mem_cons_self, hchain⟩

/-! ## Filling -/

theorem enlist_eq (live : LiveTree) (place : Nat) (s : Scaffolding) (id : Nat) :
    s.enlist live place id =
      match live.listing? id with
      | none => s
      | some rule =>
        if rule.isContainer then s.opened place rule (live.children id)
        else
          match s.rules.getOrInsert place rule with
          | .ok (_, rules) => { s with rules }
          | .error _ => s := by
  rw [enlist, LiveTree.listing?]
  rcases live.node? id with _ | ⟨kind, name⟩
  · rfl
  · simp only [LiveNode.rule?, Option.bind_some]
    rcases Text.nonBlank name with _ | n
    · simp
    · cases kind <;> rfl

/-- Listing a live node adds its chain and opens its container, if it may stand there. -/
theorem enlist_grows (live : LiveTree) (hs : s.Sound) {place : Nat} {holder : RuleNode}
    (hplace : s.rules.node? place = some holder) (id : Nat) :
    s.Grows (s.enlist live place id)
      (fun c => ∃ rule, live.listing? id = some rule ∧ holder.canContain rule = true ∧
        c = rule :: s.rules.chain place)
      fun c l => ∃ rule, live.listing? id = some rule ∧ holder.canContain rule = true ∧
        rule.isContainer = true ∧ c = rule :: s.rules.chain place ∧ l = live.children id := by
  rw [enlist_eq]
  rcases hr : live.listing? id with _ | rule
  · exact (Grows.refl hs).congr (by simp) (by simp)
  · have hplain := LiveTree.plain_of_listing? hr
    simp only [Option.some.injEq, exists_eq_left']
    rcases hcan : holder.canContain rule with _ | _
    · have herror := RuleTree.getOrInsert_eq_error hs.tidy hplace hcan hplain
      have hopened : s.opened place rule (live.children id) = s := by simp [opened, herror]
      simp only [hopened, herror, ite_self]
      exact (Grows.refl hs).congr (by simp) (by simp)
    · split_ifs with hcont
      · exact (opened_grows hs hplace hcan hplain _).congr (by simp) (by simp [hcont])
      · obtain ⟨new, rules, hget, hgrows, -⟩ :=
          RuleTree.getOrInsert_spec hs.tidy hplace hcan hplain
        rw [hget]
        refine ⟨hgrows.congr (by simp), fun e he => hgrows.contains (hs.stands e he), ?_⟩
        intro c l
        rw [awaits_of_grows hs hgrows]
        simp [hcont]

theorem foldl_enlist_grows (live : LiveTree) {place : Nat} {holder : RuleNode} :
    ∀ (members : List Nat) {s : Scaffolding}, s.Sound → s.rules.node? place = some holder →
      s.Grows (members.foldl (enlist live place) s)
        (fun c => ∃ m ∈ members, ∃ rule, live.listing? m = some rule ∧
          holder.canContain rule = true ∧ c = rule :: s.rules.chain place)
        fun c l => ∃ m ∈ members, ∃ rule, live.listing? m = some rule ∧
          holder.canContain rule = true ∧ rule.isContainer = true ∧
            c = rule :: s.rules.chain place ∧ l = live.children m
  | [], s, hs, _ => (Grows.refl hs).congr (by simp) (by simp)
  | m :: members, s, hs, hplace => by
    have hid := Forest.contains_of_value? hplace
    have hstep := enlist_grows live hs hplace m
    have hrest := foldl_enlist_grows live members hstep.sound
      ((hstep.rules.node?_eq hid).trans hplace)
    rw [hstep.rules.chain_eq hs.tidy hid] at hrest
    rw [List.foldl_cons]
    exact (hstep.trans hrest).congr (fun c => by rw [List.exists_mem_cons_iff])
      fun c l => by rw [List.exists_mem_cons_iff]

/-- Filling a container adds what sharing lists and opens what sharing opens. -/
theorem fill_grows (live : LiveTree) {rules : RuleTree} (ht : rules.Tidy) {place : Nat}
    {holder : RuleNode} {above : List RuleNode} (hplace : rules.node? place = some holder)
    (hchain : rules.chain place = holder :: above) (sharing : Sharing)
    (hwild : sharing.hidden ≠ [] →
      holder.canContain sharing.wildcard = true ∧ sharing.wildcard.Plain) :
    (⟨rules, []⟩ : Scaffolding).Grows
      (fill live rules place sharing.shown sharing.wildcard sharing.hidden)
      (live.Lists holder above sharing) (live.Opens holder above sharing) := by
  have hsound : (⟨rules, []⟩ : Scaffolding).Sound := ⟨ht, by simp⟩
  have hlist := foldl_enlist_grows live sharing.shown hsound hplace
  simp only [hchain] at hlist
  rw [fill]
  rcases hh : sharing.hidden with _ | ⟨m, hidden⟩
  · exact hlist.congr (by simp [LiveTree.Lists, hh]) (by simp [LiveTree.Opens, hh])
  · rw [hh] at hwild
    obtain ⟨hcan, hplain⟩ := hwild (by simp)
    have hid := Forest.contains_of_value? hplace
    have hopen := opened_grows hlist.sound ((hlist.rules.node?_eq hid).trans hplace) hcan hplain
      (m :: hidden)
    rw [hlist.rules.chain_eq ht hid] at hopen
    simp only [hchain] at hopen
    exact (hlist.trans hopen).congr (by simp [LiveTree.Lists, hh]) (by simp [LiveTree.Opens, hh])

/-- Working off what is pending adds what each pending container yields. -/
theorem foldl_pending_grows (work : RuleTree → Nat × List Nat → RuleTree)
    (yields : List RuleNode → List Nat → List RuleNode → Prop) :
    ∀ (pending : List (Nat × List Nat)) {rules : RuleTree}, rules.Tidy →
      (∀ e ∈ pending, rules.forest.contains e.1 = true) →
      (∀ e ∈ pending, ∀ rules' : RuleTree, rules'.Tidy → rules'.forest.contains e.1 = true →
        rules'.chain e.1 = rules.chain e.1 →
          rules'.Grows (work rules' e) (yields (rules.chain e.1) e.2)) →
      rules.Grows (pending.foldl work rules)
        fun c => ∃ e ∈ pending, yields (rules.chain e.1) e.2 c
  | [], rules, ht, _, _ => (RuleTree.Grows.refl ht).congr (by simp)
  | e :: pending, rules, ht, hstands, hwork => by
    have he := hstands e List.mem_cons_self
    have hstep := hwork e List.mem_cons_self rules ht he rfl
    have hchain : ∀ e' ∈ pending, (work rules e).chain e'.1 = rules.chain e'.1 := fun e' he' =>
      hstep.chain_eq ht (hstands e' (List.mem_cons_of_mem e he'))
    have hrest := foldl_pending_grows work yields pending hstep.tidy
      (fun e' he' => hstep.contains (hstands e' (List.mem_cons_of_mem e he')))
      (by
        intro e' he' rules' ht' hc' hchain'
        rw [hchain e' he'] at hchain' ⊢
        exact hwork e' (List.mem_cons_of_mem e he') rules' ht' hc' hchain')
    rw [List.foldl_cons]
    refine (hstep.trans hrest).congr fun c => ?_
    rw [List.exists_mem_cons_iff]
    refine or_congr_right (exists_congr fun e' => and_congr_right fun he' => ?_)
    rw [hchain e' he']

/-- Filling a container and then working off what was opened in it adds all that the container
yields, if work adds what each opened container yields. -/
theorem Grows.work {live : LiveTree} {rules : RuleTree} {holder : RuleNode}
    {above : List RuleNode} {members : List Nat}
    (h : (⟨rules, []⟩ : Scaffolding).Grows s (live.Lists holder above (live.share holder members))
      (live.Opens holder above (live.share holder members)))
    {work : RuleTree → Nat × List Nat → RuleTree}
    (hwork : ∀ c l, live.Opens holder above (live.share holder members) c l →
      ∀ (rules' : RuleTree) (id : Nat), rules'.Tidy → rules'.forest.contains id = true →
        rules'.chain id = c → rules'.Grows (work rules' (id, l)) (live.Yields c l)) :
    rules.Grows (s.pending.foldl work s.rules) (live.Yields (holder :: above) members) := by
  have hopens : ∀ e ∈ s.pending,
      live.Opens holder above (live.share holder members) (s.rules.chain e.1) e.2 := by
    intro e he
    have hawaits : s.Awaits (s.rules.chain e.1) e.2 := ⟨e.1, he, rfl⟩
    rw [h.awaits] at hawaits
    rcases hawaits with ⟨id, hid, -⟩ | hopen
    · cases hid
    · exact hopen
  have hpending := foldl_pending_grows work live.Yields s.pending h.rules.tidy
    h.stands fun e he rules' ht' hc' hchain =>
      hwork _ _ (hopens e he) rules' e.1 ht' hc' hchain
  refine (h.rules.trans hpending).congr fun c => ?_
  rw [LiveTree.yields_iff]
  refine or_congr_right ?_
  constructor
  · rintro ⟨e, he, hy⟩
    exact ⟨_, _, hopens e he, hy⟩
  · rintro ⟨c', l, hopen, hy⟩
    obtain ⟨id, hid, rfl⟩ := (h.awaits c' l).2 (.inr hopen)
    exact ⟨(id, l), hid, hy⟩

end Scaffolding

/-! ## The whole scaffold -/

namespace LiveTree

open Scaffolding (fill_grows)

variable {rules : RuleTree} {live : LiveTree} {place : Nat}

/-- What is opened in a container is a container with its holder behind it. -/
theorem Opens.chain_eq {holder : RuleNode} {above c : List RuleNode} {members l : List Nat}
    (h : live.Opens holder above (live.share holder members) c l) :
    ∃ rule, c = rule :: holder :: above ∧ rule.isContainer = true ∧
      holder.canContain rule = true := by
  rcases h with ⟨m, -, rule, -, hcan, hcont, rfl, -⟩ | ⟨hh, rfl, -⟩
  · exact ⟨rule, rfl, hcont, hcan⟩
  · rcases holder with _ | _ | _ | _
    · refine ⟨_, rfl, ?_⟩
      simp only [share]
      split_ifs <;> exact ⟨rfl, rfl⟩
    · exact ⟨_, rfl, rfl, rfl⟩
    · exact absurd rfl hh
    · exact absurd rfl hh

/-- In a schema nothing is opened. -/
theorem not_opens_schema {name : Option String} {above c : List RuleNode} {members l : List Nat} :
    ¬ live.Opens (.schema name) above (live.share (.schema name) members) c l := by
  intro h
  obtain ⟨rule, -, hcont, hcan⟩ := h.chain_eq
  cases rule <;> simp [RuleNode.canContain, RuleNode.isContainer] at hcan hcont

theorem fillSchema_grows (ht : rules.Tidy) {name : Option String} {above : List RuleNode}
    (hplace : rules.forest.contains place = true)
    (hchain : rules.chain place = .schema name :: above) (members : List Nat) :
    rules.Grows (live.fillSchema rules place members)
      (live.Yields (.schema name :: above) members) := by
  have hn := ht.wellFormed.node?_of_chain hplace hchain
  have hfill := fill_grows live ht hn hchain (live.share (.schema name) members)
    (fun h => absurd rfl h)
  refine hfill.rules.congr fun c => ?_
  rw [yields_iff]
  exact (or_iff_left fun ⟨_, _, hopen, _⟩ => not_opens_schema hopen).symm

theorem fillCatalog_grows (ht : rules.Tidy) {name : Option String} {above : List RuleNode}
    (hplace : rules.forest.contains place = true)
    (hchain : rules.chain place = .catalog name :: above) (members : List Nat) :
    rules.Grows (live.fillCatalog rules place members)
      (live.Yields (.catalog name :: above) members) := by
  have hn := ht.wellFormed.node?_of_chain hplace hchain
  have hfill := fill_grows live ht hn hchain (live.share (.catalog name) members)
    (fun _ => ⟨rfl, rfl⟩)
  refine hfill.work fun c l hopen rules' id ht' hid hc => ?_
  obtain ⟨rule, rfl, hcont, hcan⟩ := hopen.chain_eq
  rcases rule with _ | _ | _ | _
  · cases hcan
  · cases hcan
  · exact fillSchema_grows ht' hid hc l
  · cases hcont

theorem fillContainer_grows (ht : rules.Tidy) {rule : RuleNode} {above : List RuleNode}
    (hcont : rule.isContainer = true) (hroot : rule ≠ .root)
    (hplace : rules.forest.contains place = true) (hchain : rules.chain place = rule :: above)
    (members : List Nat) :
    rules.Grows (live.fillContainer rules place members) (live.Yields (rule :: above) members) := by
  have hn := ht.wellFormed.node?_of_chain hplace hchain
  rw [fillContainer, hn]
  rcases rule with _ | name | name | _
  · exact absurd rfl hroot
  · exact fillCatalog_grows ht hplace hchain members
  · exact fillSchema_grows ht hplace hchain members
  · cases hcont

/-- Scaffolding fills the root with what stands at the top, and then what was opened there. -/
theorem scaffold_eq (live : LiveTree) :
    live.scaffold
      = (Scaffolding.fill live .empty RuleTree.rootId (live.share .root live.roots).shown
          (live.share .root live.roots).wildcard (live.share .root live.roots).hidden).pending.foldl
            (fun rules e => live.fillContainer rules e.1 e.2)
          (Scaffolding.fill live .empty RuleTree.rootId (live.share .root live.roots).shown
            (live.share .root live.roots).wildcard
            (live.share .root live.roots).hidden).rules := by
  simp only [scaffold, share]
  split_ifs <;> rfl

/-- Scaffolding makes a tidy tree, which holds the root and what the live tree yields. -/
theorem scaffold_grows (live : LiveTree) :
    RuleTree.empty.Grows live.scaffold (live.Yields [.root] live.roots) := by
  have hroot := RuleTree.Tidy.empty.wellFormed
  have hfill := fill_grows live RuleTree.Tidy.empty hroot.node?_root hroot.chain_root
    (live.share .root live.roots) (by
      intro _
      simp only [share]
      split_ifs <;> exact ⟨rfl, rfl⟩)
  rw [scaffold_eq]
  refine hfill.work fun c l hopen rules' id ht' hid hc => ?_
  obtain ⟨rule, rfl, hcont, hcan⟩ := hopen.chain_eq
  refine fillContainer_grows ht' hcont ?_ hid hc l
  rintro rfl
  cases hcan

theorem scaffold_tidy (live : LiveTree) : live.scaffold.Tidy := live.scaffold_grows.tidy

theorem holds_scaffold {c : List RuleNode} :
    live.scaffold.Holds c ↔ c = [.root] ∨ live.Yields [.root] live.roots c := by
  rw [live.scaffold_grows.holds, RuleTree.holds_empty]

end LiveTree

end SchemaSieve
