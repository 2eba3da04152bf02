import Mathlib.Tactic
import SchemaSieve.Proofs.Scaffold

/-!
# What scaffolding lists

What stands at the top of a live tree, or in a named catalog there, is listed in one container of
the scaffold, its `Stock`. A named schema beside it may hide it there, so it may move on into a
schema without a name. This holds of any live tree, however its nodes are named and nested: several
catalogs of one name have one stock, though each is split by itself. All that a scaffold holds below
its root comes about in this way (`origin_of_holds`).
-/

namespace SchemaSieve

namespace ObjectKind

variable {kind : ObjectKind}

theorem catalog_rank_lt (hk : kind ≠ .catalog) : catalog.rank < kind.rank := by
  cases kind <;> first | decide | exact absurd rfl hk

/-- What is no namespace can stand inside a schema. -/
theorem schema_rank_lt (hk : kind.isContainer = false) : schema.rank < kind.rank := by
  cases kind <;> cases hk <;> decide

/-- What is no namespace is listed by an include of its exact name. -/
theorem eq_of_listing? {name : String} {rule : RuleNode} (hr : kind.listing? name = some rule)
    (hk : kind.isContainer = false) :
    ∃ subject, subject ≠ RuleSubject.column ∧ kind = subject.kind ∧
      rule = .rule subject .includes (Regex.escape name) := by
  cases kind <;> cases hr <;> cases hk
  · exact ⟨.table, by simp, rfl, rfl⟩
  · exact ⟨.procedure, by simp, rfl, rfl⟩

end ObjectKind

namespace RuleSubject

variable {subject : RuleSubject}

theorem isContainer_kind (subject : RuleSubject) : subject.kind.isContainer = false := by
  cases subject <;> rfl

theorem kind_ne_catalog (subject : RuleSubject) : subject.kind ≠ .catalog := by
  cases subject <;> simp [kind]

theorem kind_ne_column (hs : subject ≠ column) : subject.kind ≠ .column := by
  cases subject <;> simp [kind] at hs ⊢

theorem listing?_kind (hs : subject ≠ column) (name : String) :
    subject.kind.listing? name = some (.rule subject .includes (Regex.escape name)) := by
  cases subject
  · rfl
  · exact absurd rfl hs
  · rfl

end RuleSubject

namespace LiveTree

variable {t : LiveTree}

/-! ## What a named container hides -/

/-- Whether a named container stands among some nodes together with a named object of a deeper kind
that is listed. -/
def Crowds (t : LiveTree) (container : ObjectKind) (members : List Nat) : Prop :=
  (∃ m ∈ members, ∃ name, t.node? m = some ⟨container, some name⟩ ∧ Text.isBlank name = false) ∧
    ∃ m ∈ members, ∃ kind name, t.node? m = some ⟨kind, some name⟩ ∧ Text.isBlank name = false ∧
      container.rank < kind.rank ∧ kind ≠ .column

/-- Whether a node is of a deeper kind. -/
def Deeper (t : LiveTree) (container : ObjectKind) (id : Nat) : Prop :=
  ∃ n, t.node? id = some n ∧ container.rank < n.kind.rank

theorem any_isNamed_iff {members : List Nat} {accept : ObjectKind → Bool} :
    members.any (t.isNamed accept) = true ↔
      ∃ m ∈ members, ∃ kind name, t.node? m = some ⟨kind, some name⟩ ∧
        Text.isBlank name = false ∧ accept kind = true := by
  simp only [List.any_eq_true, isNamed, Option.any_eq_true, Bool.and_eq_true,
    Option.isSome_iff_exists, Text.nonBlank_eq_some_iff]
  refine exists_congr fun m => and_congr_right fun _ => ?_
  constructor
  · rintro ⟨⟨kind, name⟩, hn, ha, n, rfl, hb⟩
    exact ⟨kind, n, hn, hb, ha⟩
  · rintro ⟨kind, n, hn, hb, ha⟩
    exact ⟨_, hn, ha, n, rfl, hb⟩

theorem crowds_iff {container : ObjectKind} {members : List Nat} :
    t.Crowds container members ↔
      (members.any (t.isNamed (· == container)) &&
        members.any (t.isNamed fun k => container.rank < k.rank && k != .column)) = true := by
  rw [Bool.and_eq_true, any_isNamed_iff, any_isNamed_iff, Crowds]
  simp only [beq_iff_eq, Bool.and_eq_true, decide_eq_true_eq, bne_iff_ne, ne_eq]
  refine and_congr_left fun _ => exists_congr fun m => and_congr_right fun _ => ?_
  constructor
  · rintro ⟨n, hn, hb⟩
    exact ⟨_, n, hn, hb, rfl⟩
  · rintro ⟨kind, n, hn, hb, rfl⟩
    exact ⟨n, hn, hb⟩

theorem splitHidden_of_not_crowds {container : ObjectKind} {members : List Nat}
    (h : ¬ t.Crowds container members) : t.splitHidden container members = ([], members) := by
  rw [crowds_iff] at h
  rw [splitHidden]
  simp only [if_neg h]

section

variable {container : ObjectKind} {members : List Nat}

theorem any_deeper_iff {m : Nat} :
    (t.node? m).any (fun n => container.rank < n.kind.rank) = true ↔ t.Deeper container m := by
  simp only [Option.any_eq_true, decide_eq_true_eq, Deeper]

theorem splitHidden_of_crowds (h : t.Crowds container members) :
    t.splitHidden container members
      = members.partition fun id => (t.node? id).any fun n => container.rank < n.kind.rank := by
  rw [splitHidden]
  simp only [if_pos (crowds_iff.1 h)]

/-- Where a named container crowds them, splitting moves the deeper nodes out. -/
theorem mem_hidden_of_crowds (h : t.Crowds container members) {m : Nat} :
    m ∈ (t.splitHidden container members).1 ↔ m ∈ members ∧ t.Deeper container m := by
  rw [splitHidden_of_crowds h, List.partition_eq_filter_filter, List.mem_filter, any_deeper_iff]

theorem mem_shown_of_crowds (h : t.Crowds container members) {m : Nat} :
    m ∈ (t.splitHidden container members).2 ↔ m ∈ members ∧ ¬ t.Deeper container m := by
  rw [splitHidden_of_crowds h, List.partition_eq_filter_filter, List.mem_filter,
    Function.comp_apply, Bool.not_eq_true', Bool.eq_false_iff, ne_eq, any_deeper_iff]

theorem hidden_ne_nil_of_crowds (h : t.Crowds container members) :
    (t.splitHidden container members).1 ≠ [] := by
  obtain ⟨-, m, hm, kind, name, hn, -, hrank, -⟩ := id h
  exact List.ne_nil_of_mem ((mem_hidden_of_crowds h).2 ⟨hm, _, hn, hrank⟩)

end

/-! ## Nodes at a place -/

/-- Whether a node of a kind stands at a place under a name that is not blank. -/
structure Stands (t : LiveTree) (place : Option Nat) (kind : ObjectKind) (name : String)
    (id : Nat) : Prop where
  node : t.node? id = some ⟨kind, some name⟩
  parent : t.parent? id = place
  named : Text.isBlank name = false

namespace Stands

variable {place : Option Nat} {kind : ObjectKind} {name : String} {id : Nat}

theorem listing?_eq (h : t.Stands place kind name id) : t.listing? id = kind.listing? name := by
  rw [listing?, h.node, Option.bind_some, Text.nonBlank_some h.named, Option.bind_some]

theorem deeper_iff (h : t.Stands place kind name id) {container : ObjectKind} :
    t.Deeper container id ↔ container.rank < kind.rank := by
  constructor
  · rintro ⟨n, hn, hrank⟩
    obtain rfl := Option.some.inj (h.node.symm.trans hn)
    exact hrank
  · exact fun hrank => ⟨_, h.node, hrank⟩

end Stands

theorem stands_of_listing? {id : Nat} {rule : RuleNode} (h : t.listing? id = some rule) :
    ∃ kind name, t.Stands (t.parent? id) kind name id ∧ kind.listing? name = some rule := by
  obtain ⟨kind, name, hn, hb, hr⟩ := listing?_eq_some_iff.1 h
  exact ⟨kind, name, ⟨hn, rfl, hb⟩, hr⟩

theorem mem_roots (hf : t.forest.Linked) {id : Nat} {node : LiveNode}
    (hn : t.node? id = some node) : id ∈ t.roots ↔ t.parent? id = none :=
  hf.mem_roots.trans (and_iff_right (Forest.contains_of_value? hn))

/-! ## Filling a schema -/

/-- In a schema the tables and procedures with names are listed. -/
theorem yields_schema_iff {name : Option String} {above c : List RuleNode} {members : List Nat} :
    t.Yields (.schema name :: above) members c ↔
      ∃ m ∈ members, ∃ subject n, subject ≠ .column ∧
        t.Stands (t.parent? m) (RuleSubject.kind subject) n m ∧
          c = .rule subject .includes (Regex.escape n) :: .schema name :: above := by
  rw [yields_iff, or_iff_left fun ⟨_, _, hopen, _⟩ => not_opens_schema hopen, Lists, share_schema,
    or_iff_left fun h => absurd rfl h.1]
  refine exists_congr fun m => and_congr_right fun _ => ?_
  constructor
  · rintro ⟨rule, hrule, hcan, rfl⟩
    obtain ⟨kind, n, hm, hr⟩ := stands_of_listing? hrule
    cases kind <;> cases hr
    · cases hcan
    · cases hcan
    · exact ⟨.table, n, by simp, hm, rfl⟩
    · exact ⟨.procedure, n, by simp, hm, rfl⟩
  · rintro ⟨subject, n, hs, hm, rfl⟩
    exact ⟨_, hm.listing?_eq.trans (RuleSubject.listing?_kind hs n), rfl, rfl⟩

/-! ## Filling a container that schemas are opened in -/

section

variable {holder : RuleNode} {above c : List RuleNode} {members : List Nat}

/-- Whether a container splits its members as a catalog does. -/
def SplitsSchemas (t : LiveTree) (holder : RuleNode) (members : List Nat) : Prop :=
  t.share holder members
    = ⟨.schema none, (t.splitHidden .schema members).1, (t.splitHidden .schema members).2⟩

namespace SplitsSchemas

theorem wildcard (h : t.SplitsSchemas holder members) :
    (t.share holder members).wildcard = .schema none := by
  rw [show t.share holder members = _ from h]

theorem mem_shown (h : t.SplitsSchemas holder members) {m : Nat} :
    m ∈ (t.share holder members).shown ↔
      m ∈ members ∧ ¬ (t.Crowds .schema members ∧ t.Deeper .schema m) := by
  rw [show t.share holder members = _ from h]
  by_cases hcrowds : t.Crowds .schema members
  · rw [mem_shown_of_crowds hcrowds, and_iff_right hcrowds]
  · rw [splitHidden_of_not_crowds hcrowds]
    exact (and_iff_left fun hc => hcrowds hc.1).symm

theorem mem_hidden (h : t.SplitsSchemas holder members) {m : Nat} :
    m ∈ (t.share holder members).hidden ↔
      t.Crowds .schema members ∧ m ∈ members ∧ t.Deeper .schema m := by
  rw [show t.share holder members = _ from h]
  by_cases hcrowds : t.Crowds .schema members
  · rw [mem_hidden_of_crowds hcrowds, and_iff_right hcrowds]
  · rw [splitHidden_of_not_crowds hcrowds]
    simp [hcrowds]

theorem hidden_ne_nil_iff (h : t.SplitsSchemas holder members) :
    (t.share holder members).hidden ≠ [] ↔ t.Crowds .schema members := by
  rw [show t.share holder members = _ from h]
  by_cases hcrowds : t.Crowds .schema members
  · exact iff_of_true (hidden_ne_nil_of_crowds hcrowds) hcrowds
  · rw [splitHidden_of_not_crowds hcrowds]
    exact iff_of_false (fun hne => hne rfl) hcrowds

end SplitsSchemas

theorem splitsSchemas_root (h : ¬ t.Crowds .catalog members) : t.SplitsSchemas .root members := by
  rw [SplitsSchemas, share, splitHidden_of_not_crowds h]
  rfl

theorem share_root_of_crowds (h : t.Crowds .catalog t.roots) :
    t.share .root t.roots = ⟨.catalog none, (t.splitHidden .catalog t.roots).1,
      (t.splitHidden .catalog t.roots).2⟩ := by
  have hne : (t.splitHidden .catalog t.roots).1.isEmpty = false := by
    simpa [List.isEmpty_iff] using hidden_ne_nil_of_crowds h
  simp [share, hne]

/-- The container in which scaffolding lists what stands at the top, or in a catalog there, and the
name of the catalog. -/
inductive Stock (t : LiveTree) : Option Nat → Option String → List RuleNode → Prop where
  | catalog {x : String} {c : Nat} (h : t.Stands none .catalog x c) :
    Stock t (some c) (some x) [.catalog (some x), .root]
  | outside (h : t.Crowds .catalog t.roots) : Stock t none none [.catalog none, .root]
  | root (h : ¬ t.Crowds .catalog t.roots) : Stock t none none [.root]

namespace Stock

variable {place : Option Nat} {key : Option String} {base : List RuleNode}

/-- A stock has the name of its catalog, which is not blank. -/
theorem named (h : t.Stock place key base) : Text.nonBlank key = key := by
  cases h with
  | catalog h => exact Text.nonBlank_some h.named
  | outside _ => rfl
  | root _ => rfl

theorem eq_or_eq (h : t.Stock place key base) : base = [.catalog key, .root] ∨ base = [.root] := by
  cases h
  · exact .inl rfl
  · exact .inl rfl
  · exact .inr rfl

theorem canContain (h : t.Stock place key (holder :: above)) {kind : ObjectKind} {name : String}
    {rule : RuleNode} (hr : kind.listing? name = some rule) (hk : kind ≠ .catalog) :
    holder.canContain rule = true := by
  cases h <;> cases kind <;> cases hr <;> first | rfl | exact absurd rfl hk

end Stock

/-- Whether a container is filled with what stands at a place, and scaffolding comes to do so. -/
structure Fills (t : LiveTree) (place : Option Nat) (key : Option String) (holder : RuleNode)
    (above : List RuleNode) (members : List Nat) : Prop where
  links : t.forest.Linked
  stock : t.Stock place key (holder :: above)
  splits : t.SplitsSchemas holder members
  mem_iff : ∀ ⦃id : Nat⦄ ⦃node : LiveNode⦄, t.node? id = some node → node.kind ≠ .catalog →
    (id ∈ members ↔ t.parent? id = place)
  lift : ∀ c, t.Yields (holder :: above) members c → t.Yields [.root] t.roots c

/-- A named catalog is listed at the root. -/
theorem Stands.opens_catalog (hf : t.forest.Linked) {x : String} {c : Nat}
    (h : t.Stands none .catalog x c) :
    t.Opens .root [] (t.share .root t.roots) [.catalog (some x), .root] (t.children c) := by
  have hdeeper : ∀ container, ¬ t.Deeper container c := by
    intro container
    rw [h.deeper_iff]
    exact Nat.not_lt_zero _
  have hshown : c ∈ (t.share .root t.roots).shown := by
    have hc := (mem_roots hf h.node).2 h.parent
    by_cases hcrowds : t.Crowds .catalog t.roots
    · rw [share_root_of_crowds hcrowds]
      exact (mem_shown_of_crowds hcrowds).2 ⟨hc, hdeeper _⟩
    · exact (splitsSchemas_root hcrowds).mem_shown.2 ⟨hc, fun hc => hdeeper _ hc.2⟩
  exact .inl ⟨c, hshown, _, h.listing?_eq, rfl, rfl, rfl, rfl⟩

theorem fills_catalog (hf : t.forest.Linked) {x : String} {c : Nat}
    (h : t.Stands none .catalog x c) :
    t.Fills (some c) (some x) (.catalog (some x)) [.root] (t.children c) where
  links := hf
  stock := .catalog h
  splits := share_catalog t (some x) (t.children c)
  mem_iff := fun _ _ _ _ => hf.mem_children
  lift := fun _ hy => .inside (h.opens_catalog hf) hy

theorem fills_outside (hf : t.forest.Linked) (h : t.Crowds .catalog t.roots) :
    t.Fills none none (.catalog none) [.root] (t.splitHidden .catalog t.roots).1 where
  links := hf
  stock := .outside h
  splits := share_catalog t none _
  mem_iff := by
    intro id node hn hk
    rw [mem_hidden_of_crowds h, mem_roots hf hn, and_iff_left]
    exact ⟨_, hn, ObjectKind.catalog_rank_lt hk⟩
  lift := by
    refine fun _ hy => .inside (.inr ?_) hy
    rw [share_root_of_crowds h]
    exact ⟨hidden_ne_nil_of_crowds h, rfl, rfl⟩

theorem fills_root (hf : t.forest.Linked) (h : ¬ t.Crowds .catalog t.roots) :
    t.Fills none none .root [] t.roots where
  links := hf
  stock := .root h
  splits := splitsSchemas_root h
  mem_iff := fun _ _ hn _ => mem_roots hf hn
  lift := fun _ hy => hy

/-- Each stock is filled. -/
theorem Stock.exists_fills (hf : t.forest.Linked) {place : Option Nat} {key : Option String}
    {base : List RuleNode}
    (h : t.Stock place key base) :
    ∃ holder above members, base = holder :: above ∧ t.Fills place key holder above members := by
  cases h with
  | catalog h => exact ⟨_, _, _, rfl, fills_catalog hf h⟩
  | outside h => exact ⟨_, _, _, rfl, fills_outside hf h⟩
  | root h => exact ⟨_, _, _, rfl, fills_root hf h⟩

theorem exists_stock_top (t : LiveTree) : ∃ base, t.Stock none none base := by
  by_cases h : t.Crowds .catalog t.roots
  · exact ⟨_, .outside h⟩
  · exact ⟨_, .root h⟩

/-! ## What is listed -/

namespace Fills

variable {place : Option Nat} {key : Option String} {s n : String} {m id : Nat}
  {kind : ObjectKind} {subject : RuleSubject}

theorem holds (h : t.Fills place key holder above members)
    (hy : t.Yields (holder :: above) members c) : t.scaffold.Holds c :=
  holds_scaffold.2 (.inr (h.lift c hy))

theorem mem_members (h : t.Fills place key holder above members) (hid : t.Stands place kind n id)
    (hk : kind ≠ .catalog) : id ∈ members :=
  (h.mem_iff hid.node hk).2 hid.parent

/-- A place is crowded exactly if a named schema and a named table or procedure stand there. -/
theorem crowds_iff (h : t.Fills place key holder above members) :
    t.Crowds .schema members ↔ (∃ s m, t.Stands place .schema s m) ∧
      ∃ subject n id, subject ≠ .column ∧ t.Stands place (RuleSubject.kind subject) n id := by
  constructor
  · rintro ⟨⟨m, hm, s, hn, hb⟩, id, hid, kind, n, hn', hb', hrank, hk⟩
    refine ⟨⟨s, m, hn, (h.mem_iff hn (by simp)).1 hm, hb⟩, ?_⟩
    cases kind with
    | catalog | schema => simp [ObjectKind.rank] at hrank
    | table => exact ⟨.table, n, id, by simp, hn', (h.mem_iff hn' (by simp)).1 hid, hb'⟩
    | procedure => exact ⟨.procedure, n, id, by simp, hn', (h.mem_iff hn' (by simp)).1 hid, hb'⟩
    | column => exact absurd rfl hk
  · rintro ⟨⟨s, m, hm⟩, subject, n, id, hs, hid⟩
    exact ⟨⟨m, h.mem_members hm (by simp), s, hm.node, hm.named⟩, id,
      h.mem_members hid subject.kind_ne_catalog, _, n, hid.node, hid.named,
      ObjectKind.schema_rank_lt subject.isContainer_kind, RuleSubject.kind_ne_column hs⟩

theorem opens_schema (h : t.Fills place key holder above members)
    (hm : t.Stands place .schema s m) :
    t.Opens holder above (t.share holder members) (.schema (some s) :: holder :: above)
      (t.children m) := by
  refine .inl ⟨m, h.splits.mem_shown.2 ⟨h.mem_members hm (by simp), ?_⟩, .schema (some s),
    hm.listing?_eq, ?_, rfl, rfl, rfl⟩
  · rintro ⟨-, hdeeper⟩
    exact lt_irrefl _ (hm.deeper_iff.1 hdeeper)
  · have hr : ObjectKind.schema.listing? s = some (.schema (some s)) := rfl
    exact h.stock.canContain hr (by simp)

/-- A named schema is listed. -/
theorem holds_schema (h : t.Fills place key holder above members)
    (hm : t.Stands place .schema s m) : t.scaffold.Holds (.schema (some s) :: holder :: above) :=
  h.holds (.listed (h.opens_schema hm).lists)

/-- What stands in a named schema is listed in a schema of this name. -/
theorem holds_inSchema (h : t.Fills place key holder above members)
    (hm : t.Stands place .schema s m) (hs : subject ≠ .column)
    (hid : t.Stands (some m) subject.kind n id) :
    t.scaffold.Holds
      (.rule subject .includes (Regex.escape n) :: .schema (some s) :: holder :: above) := by
  have hchild : id ∈ t.children m := h.links.mem_children.2 hid.parent
  exact h.holds (.inside (h.opens_schema hm) (yields_schema_iff.2
    ⟨id, hchild, subject, n, hs, ⟨hid.node, rfl, hid.named⟩, rfl⟩))

/-- What stands beside a named schema is listed in a schema without a name. -/
theorem holds_hidden (h : t.Fills place key holder above members)
    (hm : t.Stands place .schema s m) (hs : subject ≠ .column)
    (hid : t.Stands place subject.kind n id) :
    t.scaffold.Holds
      (.rule subject .includes (Regex.escape n) :: .schema none :: holder :: above) := by
  have hcrowds := h.crowds_iff.2 ⟨⟨s, m, hm⟩, subject, n, id, hs, hid⟩
  have hmem : id ∈ (t.share holder members).hidden :=
    h.splits.mem_hidden.2 ⟨hcrowds, h.mem_members hid subject.kind_ne_catalog,
      hid.deeper_iff.2 (ObjectKind.schema_rank_lt subject.isContainer_kind)⟩
  refine h.holds (.inside (.inr ⟨h.splits.hidden_ne_nil_iff.2 hcrowds, rfl, rfl⟩) ?_)
  rw [h.splits.wildcard]
  exact yields_schema_iff.2 ⟨id, hmem, subject, n, hs, ⟨hid.node, rfl, hid.named⟩, rfl⟩

/-- What stands beside no named schema is listed in the stock itself. -/
theorem holds_shown (h : t.Fills place key holder above members)
    (hno : ∀ s m, ¬ t.Stands place .schema s m) (hs : subject ≠ .column)
    (hid : t.Stands place subject.kind n id) :
    t.scaffold.Holds (.rule subject .includes (Regex.escape n) :: holder :: above) := by
  have hmem : id ∈ (t.share holder members).shown := by
    refine h.splits.mem_shown.2 ⟨h.mem_members hid subject.kind_ne_catalog, ?_⟩
    rintro ⟨hcrowds, -⟩
    obtain ⟨⟨s, m, hm⟩, -⟩ := h.crowds_iff.1 hcrowds
    exact hno s m hm
  have hr := RuleSubject.listing?_kind hs n
  exact h.holds (.listed (.inl ⟨id, hmem, _, hid.listing?_eq.trans hr,
    h.stock.canContain hr subject.kind_ne_catalog, rfl⟩))

end Fills

/-! ## What a scaffold holds comes from -/

/-- What the nodes of a scaffold below the root come from, by their chains. -/
inductive Origin (t : LiveTree) : List RuleNode → Prop where
  | catalog {x : String} {c : Nat} (h : t.Stands none .catalog x c) :
    Origin t [.catalog (some x), .root]
  | anyCatalog (h : t.Crowds .catalog t.roots) : Origin t [.catalog none, .root]
  | schema {place : Option Nat} {key : Option String} {base : List RuleNode} {m : Nat} {s : String}
      (hbase : t.Stock place key base) (hm : t.Stands place .schema s m) :
    Origin t (.schema (some s) :: base)
  | anySchema {place : Option Nat} {key : Option String} {base : List RuleNode} {m id : Nat}
      {s n : String} {subject : RuleSubject} (hbase : t.Stock place key base)
      (hm : t.Stands place .schema s m) (hs : subject ≠ .column)
      (hid : t.Stands place subject.kind n id) : Origin t (.schema none :: base)
  | inSchema {place : Option Nat} {key : Option String} {base : List RuleNode} {m id : Nat}
      {s n : String} {subject : RuleSubject} (hbase : t.Stock place key base)
      (hm : t.Stands place .schema s m) (hs : subject ≠ .column)
      (hid : t.Stands (some m) subject.kind n id) :
    Origin t (.rule subject .includes (Regex.escape n) :: .schema (some s) :: base)
  | hidden {place : Option Nat} {key : Option String} {base : List RuleNode} {m id : Nat}
      {s n : String} {subject : RuleSubject} (hbase : t.Stock place key base)
      (hm : t.Stands place .schema s m) (hs : subject ≠ .column)
      (hid : t.Stands place subject.kind n id) :
    Origin t (.rule subject .includes (Regex.escape n) :: .schema none :: base)
  | shown {place : Option Nat} {key : Option String} {base : List RuleNode} {id : Nat} {n : String}
      {subject : RuleSubject} (hbase : t.Stock place key base)
      (hno : ∀ s m, ¬ t.Stands place .schema s m) (hs : subject ≠ .column)
      (hid : t.Stands place subject.kind n id) :
    Origin t (.rule subject .includes (Regex.escape n) :: base)

/-- What comes of filling a container is listed there, or comes of a catalog among the members. -/
theorem Fills.origin_of_yields {place : Option Nat} {key : Option String}
    (h : t.Fills place key holder above members) (hy : t.Yields (holder :: above) members c) :
    t.Origin c ∨ ∃ m ∈ members, ∃ x, t.Stands (t.parent? m) .catalog x m ∧
      holder.canContain (.catalog (some x)) = true ∧
        (c = .catalog (some x) :: holder :: above ∨
          t.Yields (.catalog (some x) :: holder :: above) (t.children m) c) := by
  rcases yields_iff.1 hy with (⟨m, hm, rule, hrule, hcan, rfl⟩ | ⟨hhidden, rfl⟩) |
    ⟨c', l, ⟨m, hm, rule, hrule, hcan, hcont, rfl, rfl⟩ | ⟨hhidden, rfl, rfl⟩, hbelow⟩
  · -- A node that is listed here.
    obtain ⟨hmem, hshown⟩ := h.splits.mem_shown.1 hm
    obtain ⟨kind, name, hstands, hr⟩ := stands_of_listing? hrule
    have hplace : kind ≠ .catalog → t.Stands place kind name m := fun hk =>
      ⟨hstands.node, (h.mem_iff hstands.node hk).1 hmem, hstands.named⟩
    rcases hcont : kind.isContainer with _ | _
    · obtain ⟨subject, hs, rfl, rfl⟩ := ObjectKind.eq_of_listing? hr hcont
      have hid := hplace subject.kind_ne_catalog
      refine .inl (.shown h.stock (fun s m' hm' => hshown ⟨?_, ?_⟩) hs hid)
      · exact h.crowds_iff.2 ⟨⟨s, m', hm'⟩, subject, name, m, hs, hid⟩
      · exact hid.deeper_iff.2 (ObjectKind.schema_rank_lt hcont)
    · cases kind <;> cases hcont <;> cases hr
      · exact .inr ⟨m, hmem, name, hstands, hcan, .inl rfl⟩
      · exact .inl (.schema h.stock (hplace (by simp)))
  · -- The schema without a name: something moves into it.
    obtain ⟨⟨s, m, hm⟩, subject, n, id, hs, hid⟩ :=
      h.crowds_iff.1 (h.splits.hidden_ne_nil_iff.1 hhidden)
    rw [h.splits.wildcard]
    exact .inl (.anySchema h.stock hm hs hid)
  · -- Inside a container that is listed here.
    obtain ⟨hmem, -⟩ := h.splits.mem_shown.1 hm
    obtain ⟨kind, name, hstands, hr⟩ := stands_of_listing? hrule
    cases kind <;> cases hr
    · exact .inr ⟨m, hmem, name, hstands, hcan, .inr hbelow⟩
    · obtain ⟨id, hid, subject, n, hs, hstands', rfl⟩ := yields_schema_iff.1 hbelow
      have hparent : t.parent? id = some m := h.links.mem_children.1 hid
      exact .inl (.inSchema h.stock
        ⟨hstands.node, (h.mem_iff hstands.node (by simp)).1 hmem, hstands.named⟩ hs
        ⟨hstands'.node, hparent, hstands'.named⟩)
    · cases hcont
    · cases hcont
  · -- Inside the schema without a name.
    have hcrowds := h.splits.hidden_ne_nil_iff.1 hhidden
    obtain ⟨⟨s, m, hm⟩, -⟩ := h.crowds_iff.1 hcrowds
    rw [h.splits.wildcard] at hbelow
    obtain ⟨id, hid, subject, n, hs, hstands, rfl⟩ := yields_schema_iff.1 hbelow
    obtain ⟨-, hmem, -⟩ := h.splits.mem_hidden.1 hid
    have hparent := (h.mem_iff hstands.node subject.kind_ne_catalog).1 hmem
    exact .inl (.hidden h.stock hm hs ⟨hstands.node, hparent, hstands.named⟩)

/-- All that a scaffold holds below its root comes from something. -/
theorem origin_of_holds (hf : t.forest.Linked) (h : t.scaffold.Holds c) (hne : c ≠ [.root]) :
    t.Origin c := by
  have hy := (holds_scaffold.1 h).resolve_left hne
  -- A named catalog is listed, and so is what comes of filling it.
  have hcatalog : ∀ {m : Nat} {x : String}, m ∈ t.roots → t.Stands (t.parent? m) .catalog x m →
      c = [.catalog (some x), .root] ∨ t.Yields [.catalog (some x), .root] (t.children m) c →
        t.Origin c := by
    intro m x hm hstands hc
    have htop : t.Stands none .catalog x m :=
      ⟨hstands.node, (mem_roots hf hstands.node).1 hm, hstands.named⟩
    rcases hc with rfl | hy
    · exact .catalog htop
    · rcases (fills_catalog hf htop).origin_of_yields hy with h | ⟨_, _, _, _, hcan, _⟩
      · exact h
      · cases hcan
  by_cases hcrowds : t.Crowds .catalog t.roots
  · have hshare := share_root_of_crowds hcrowds
    -- What stays at the root is no deeper than a catalog.
    have hshown : ∀ {m : Nat} {rule : RuleNode}, m ∈ (t.share .root t.roots).shown →
        t.listing? m = some rule → ∃ x, rule = .catalog (some x) ∧ m ∈ t.roots ∧
          t.Stands (t.parent? m) .catalog x m := by
      intro m rule hm hrule
      rw [hshare] at hm
      obtain ⟨hmem, hdeeper⟩ := (mem_shown_of_crowds hcrowds).1 hm
      obtain ⟨kind, name, hstands, hr⟩ := stands_of_listing? hrule
      rw [hstands.deeper_iff] at hdeeper
      by_cases hk : kind = .catalog
      · subst hk
        cases hr
        exact ⟨name, rfl, hmem, hstands⟩
      · exact absurd (ObjectKind.catalog_rank_lt hk) hdeeper
    rcases yields_iff.1 hy with (⟨m, hm, rule, hrule, -, rfl⟩ | ⟨-, rfl⟩) |
      ⟨c', l, ⟨m, hm, rule, hrule, -, -, rfl, rfl⟩ | ⟨-, rfl, rfl⟩, hbelow⟩
    · obtain ⟨x, rfl, hmem, hstands⟩ := hshown hm hrule
      exact hcatalog hmem hstands (.inl rfl)
    · rw [hshare]
      exact .anyCatalog hcrowds
    · obtain ⟨x, rfl, hmem, hstands⟩ := hshown hm hrule
      exact hcatalog hmem hstands (.inr hbelow)
    · rw [hshare] at hbelow
      rcases (fills_outside hf hcrowds).origin_of_yields hbelow with h | ⟨_, _, _, _, hcan, _⟩
      · exact h
      · cases hcan
  · rcases (fills_root hf hcrowds).origin_of_yields hy with h | ⟨m, hm, x, hstands, -, hc⟩
    · exact h
    · exact hcatalog hm hstands hc

end

end LiveTree

end SchemaSieve
