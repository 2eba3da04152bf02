import Mathlib.Tactic
import SchemaSieve.Proofs.Agreement
import SchemaSieve.Proofs.Matching
import SchemaSieve.Proofs.ScaffoldScopes

/-!
# Scaffolds include what they are made from

The scaffold of any live tree includes each node that can be decided, provided that all it stands in
has names and stands where it may: what has no name is not listed, nor is anything below it, and
neither is what stands below a node that may not stand where it does. What is loose in a catalog asks
for a condition more, as the catalogs of one name are split one by one (`Grown.scaffold_covers`).
That the escaped form of a name compiles to a pattern of this name alone is asked for the names that
are listed (`LiteralExact`).
-/

namespace SchemaSieve

/-- Whether the escaped form of a name compiles to a pattern that accepts this name alone. -/
def LiteralExact (name : String) : Prop :=
  ∃ p, NamePattern.ofSource (Regex.escape name) = .ok p ∧ ∀ m, p.accepts m = true ↔ m = name

theorem LiteralExact.of_anchored {name : String}
    (h : wholeNameRegex (Regex.escape name) = .ok (Regex.anchored name.toList)) :
    LiteralExact name := by
  refine ⟨⟨Regex.escape name, .anchored name.toList, wholeNameRegex_of_fits h⟩,
    NamePattern.ofSource_eq_ok_iff.2 ⟨rfl, h⟩, fun m => ?_⟩
  rw [NamePattern.accepts, Regex.isMatch_anchored, String.toList_inj]

/-- Escaping leaves the characters of a name in place. -/
theorem isBlank_escape {name : String} (h : Text.isBlank name = false) :
    Text.isBlank (Regex.escape name) = false := by
  rw [Text.isBlank, List.all_eq_false] at h ⊢
  obtain ⟨c, hc, hwhite⟩ := h
  refine ⟨c, ?_, hwhite⟩
  simp only [Regex.escape, String.toList_ofList, List.mem_flatMap]
  refine ⟨c, hc, ?_⟩
  split_ifs <;> simp

theorem LiteralExact.exists_validPattern? {name : String} (h : LiteralExact name)
    (hb : Text.isBlank name = false) :
    ∃ p, validPattern? (Regex.escape name) = some p ∧ ∀ m, p.accepts m = true ↔ m = name := by
  obtain ⟨p, hp, haccepts⟩ := h
  refine ⟨p, ?_, haccepts⟩
  rw [validPattern?, isBlank_escape hb, hp]
  rfl

namespace LiveTree

variable {t : LiveTree} {place : Option Nat} {key catalog schema : Option String}

/-- Whether the names by which tables and procedures are listed compile to exact patterns. -/
def Literal (t : LiveTree) : Prop :=
  ∀ ⦃id : Nat⦄ ⦃kind : ObjectKind⦄ ⦃name : String⦄, t.node? id = some ⟨kind, some name⟩ →
    kind = .table ∨ kind = .procedure → Text.isBlank name = false → LiteralExact name

theorem Literal.exists_validPattern? (h : t.Literal) {subject : RuleSubject}
    (hs : subject ≠ .column) {id : Nat} {n : String} (hn : t.node? id = some ⟨subject.kind, some n⟩)
    (hb : Text.isBlank n = false) :
    ∃ p, validPattern? (Regex.escape n) = some p ∧ ∀ m, p.accepts m = true ↔ m = n := by
  have hkind : subject.kind = .table ∨ subject.kind = .procedure := by
    cases subject <;> simp [RuleSubject.kind] at hs ⊢
  exact (h hn hkind hb).exists_validPattern? hb

/-- A tree is literal if the names of its tables and procedures are among some whose escaped forms
compile to their characters. -/
theorem Literal.of_anchored (names : List String)
    (hanchored : ∀ name ∈ names,
      wholeNameRegex (Regex.escape name) = .ok (Regex.anchored name.toList))
    (hnames : ∀ id < t.size, ∀ n ∈ t.node? id, n.kind = .table ∨ n.kind = .procedure →
      ∃ name ∈ names, n.name = some name) : t.Literal := by
  intro id kind name hn hk _
  have hlt := Forest.lt_size_of_contains (Forest.contains_of_value? hn)
  obtain ⟨m, hm, hname⟩ := hnames id hlt _ hn hk
  obtain rfl := Option.some.inj hname
  exact .of_anchored (hanchored _ hm)

/-! ## Decisions of a scaffold -/

/-- A scaffold has no rules about columns and none that exclude. -/
theorem hasRule_scaffold (hf : t.forest.Linked) {id : Nat} {subject : RuleSubject}
    {polarity : Polarity} {p : NamePattern} (h : t.scaffold.HasRule id subject polarity p) :
    subject ≠ .column ∧ polarity = .includes := by
  obtain ⟨rule, source, hp, hn, -⟩ := h
  have hchain := t.scaffold_tidy.wellFormed.chain_child hp hn
  exact rule_of_holds hf ⟨rule, Forest.contains_of_value? hn, hchain⟩

/-- So what passes is what an include accepts. -/
theorem passesIn_scaffold_iff (hf : t.forest.Linked) {catalogKey schemaKey : Option String}
    {subject : RuleSubject} {n : String} :
    t.scaffold.PassesIn catalogKey schemaKey subject n ↔
      (∀ p, ¬ ∃ id, t.scaffold.Applies catalogKey schemaKey id ∧
        t.scaffold.HasRule id subject .includes p) ∨
      ∃ p, (∃ id, t.scaffold.Applies catalogKey schemaKey id ∧
        t.scaffold.HasRule id subject .includes p) ∧ p.accepts n = true := by
  refine and_iff_left fun p => ?_
  rintro ⟨id, -, hrule⟩
  have hpolarity := (hasRule_scaffold hf hrule).2
  exact absurd hpolarity (by simp)

theorem find?_overrides_scaffold (hf : t.forest.Linked) (catalogKey schemaKey : Option String)
    (table : String) :
    (t.scaffold.tableIncludes catalogKey schemaKey).find? (t.scaffold.overrides table) = none := by
  have hnone : ∀ polarity place, t.scaffold.validRules .column polarity place = [] := by
    intro polarity place
    rw [List.eq_nil_iff_forall_not_mem]
    rintro ⟨id, p⟩ hmem
    have hrule := (RuleTree.hasRule_iff t.scaffold_tidy.wellFormed).2 ⟨id, hmem⟩
    exact (hasRule_scaffold hf hrule).1 rfl
  rw [List.find?_eq_none]
  intro i _
  simp [RuleTree.overrides, hnone]

theorem passesIn_column_scaffold (hf : t.forest.Linked) (catalogKey schemaKey : Option String)
    (name : String) : t.scaffold.PassesIn catalogKey schemaKey .column name := by
  refine (passesIn_scaffold_iff hf).2 (.inl ?_)
  rintro p ⟨id, -, hrule⟩
  exact (hasRule_scaffold hf hrule).1 rfl

variable {path : ObjectPath} {subject : RuleSubject} {n s x : String} {id m c : Nat}

namespace Site

theorem decide_subject (hf : t.forest.Linked) (h : t.Site place catalog schema)
    (hliteral : t.Literal) (hs : subject ≠ .column) (hid : t.Stands place subject.kind n id)
    (hcatalog : Text.nonBlank path.catalog = catalog)
    (hschema : Text.nonBlank path.schema = schema) (hname : Text.nonBlank path.name = some n) :
    t.scaffold.compile.sieve.decide path subject.kind = .ok .included := by
  rw [RuleTree.decide_subject_iff t.scaffold_tidy.wellFormed hs hname, hcatalog, hschema]
  refine ⟨catalog, schema, h.resolves hf hs hid, (passesIn_scaffold_iff hf).2 (.inr ?_)⟩
  obtain ⟨p, hvalid, haccepts⟩ := hliteral.exists_validPattern? hs hid.node hid.named
  obtain ⟨c, hc, hholds⟩ := h.holds hf hs hid
  exact ⟨p, t.scaffold_tidy.exists_rule_iff.2 ⟨c, hc, _, hholds, hvalid⟩, (haccepts n).2 rfl⟩

theorem decide_column (hf : t.forest.Linked) (h : t.Site place catalog schema)
    (hid : t.Stands place .table n id) (hcatalog : Text.nonBlank path.catalog = catalog)
    (hschema : Text.nonBlank path.schema = schema) (htable : Text.nonBlank path.table = some n)
    {name : String} (hname : Text.nonBlank path.name = some name) :
    t.scaffold.compile.sieve.decide path .column = .ok .included := by
  rw [RuleTree.decide_column_iff t.scaffold_tidy.wellFormed hname htable, hcatalog, hschema]
  have htable : RuleSubject.table ≠ .column := by simp
  refine ⟨catalog, schema, h.resolves hf htable hid, ?_⟩
  rw [RuleTree.PassesColumn, find?_overrides_scaffold hf]
  exact passesIn_column_scaffold hf catalog schema name

end Site

theorem Stock.decide_schema (hf : t.forest.Linked) {base : List RuleNode}
    (hbase : t.Stock place key base) (hm : t.Stands place .schema s m)
    (hcatalog : Text.nonBlank path.catalog = key)
    (hname : Text.nonBlank path.name = some s) :
    t.scaffold.compile.sieve.decide path .schema = .ok .included := by
  simp only [Sieve.decide, hname, hcatalog, Except.ok.injEq, Decision.ofBool_eq_included_iff,
    Option.isSome_iff_exists, RuleTree.schema?_compile t.scaffold_tidy.wellFormed]
  exact ⟨_, key, some s,
    ⟨hbase.resolves_catalog hf hm (by simp) (by simp), hbase.resolves_schema hf hm⟩, rfl⟩

theorem Stands.decide_catalog (hf : t.forest.Linked) (hc : t.Stands none .catalog x c)
    (hname : Text.nonBlank path.name = some x) :
    t.scaffold.compile.sieve.decide path .catalog = .ok .included := by
  have hholds : t.scaffold.Holds [.catalog (some x), .root] :=
    holds_scaffold.2 (.inr (.listed (hc.opens_catalog hf).lists))
  simp only [Sieve.decide, hname, Except.ok.injEq, Decision.ofBool_eq_included_iff,
    Option.isSome_iff_exists, RuleTree.catalog?_compile t.scaffold_tidy.wellFormed]
  exact ⟨_, some x, .named (t.scaffold_tidy.exists_legalCatalog_iff.2 hholds), rfl⟩

/-! ## Links -/

/-- The links from the top down to a place, for what stands directly there. -/
def linksTo (t : LiveTree) (place : Option Nat) : List LiveLink :=
  place.elim [] fun id => t.linksAbove id ++ (t.link? id).toList

theorem linksAbove_eq_linksTo (hf : t.forest.Linked) (id : Nat) :
    t.linksAbove id = t.linksTo (t.parent? id) := by
  rcases hp : t.parent? id with _ | p
  · exact linksAbove_of_parent?_eq_none hp
  · exact linksAbove_of_parent? hf hp

theorem Stands.linksTo_eq (hf : t.forest.Linked) {kind : ObjectKind}
    (h : t.Stands place kind n id) : t.linksTo (some id) = t.linksTo place ++ [⟨kind, n⟩] := by
  have hlink : t.link? id = some ⟨kind, n⟩ := by
    simp [link?, h.node, Text.nonBlank_some h.named]
  rw [linksTo, Option.elim_some, linksAbove_eq_linksTo hf, h.parent, hlink]
  rfl

theorem Stock.linksTo_eq (hf : t.forest.Linked) {base : List RuleNode}
    (hbase : t.Stock place key base) :
    t.linksTo place = (key.map (LiveLink.mk .catalog)).toList := by
  cases hbase with
  | catalog hc => exact hc.linksTo_eq hf
  | outside _ => rfl
  | root _ => rfl

theorem Stock.ofLinks_linksTo (hf : t.forest.Linked) {base : List RuleNode}
    (hbase : t.Stock place key base) (name : String) :
    ObjectPath.ofLinks name (t.linksTo place) = ⟨key, none, none, some name⟩ := by
  rw [hbase.linksTo_eq hf]
  rcases key <;> rfl

namespace Site

theorem linksTo_eq (hf : t.forest.Linked) (h : t.Site place catalog schema) :
    t.linksTo place = (catalog.map (LiveLink.mk .catalog)).toList ++
      (schema.map (LiveLink.mk .schema)).toList := by
  cases h with
  | loose hbase _ => exact (hbase.linksTo_eq hf).trans (List.append_nil _).symm
  | inSchema hbase hm =>
    exact (hm.linksTo_eq hf).trans (congrArg (· ++ _) (hbase.linksTo_eq hf))

theorem ofLinks_linksTo (hf : t.forest.Linked) (h : t.Site place catalog schema) (name : String) :
    ObjectPath.ofLinks name (t.linksTo place) = ⟨catalog, schema, none, some name⟩ := by
  rw [h.linksTo_eq hf]
  rcases catalog <;> rcases schema <;> rfl

theorem ofLinks_linksTo_table (hf : t.forest.Linked) (h : t.Site place catalog schema)
    (hid : t.Stands place .table n id) (name : String) :
    ObjectPath.ofLinks name (t.linksTo (some id)) = ⟨catalog, schema, some n, some name⟩ := by
  rw [hid.linksTo_eq hf, h.linksTo_eq hf]
  rcases catalog <;> rcases schema <;> rfl

end Site

/-! ## Nodes that stand where they may -/

/-- Whether a node has a name and stands where its kind may. -/
def Regular (t : LiveTree) (id : Nat) : Prop :=
  ∃ kind name, t.Stands (t.parent? id) kind name id ∧
    kind.canAppearUnder (t.parentKind? id) = true

/-- What stands directly below the top or a regular node. -/
theorem parentKind?_cases (hf : t.forest.Linked) (habove : ∀ a ∈ t.ancestors id, t.Regular a) :
    (t.parent? id = none ∧ t.parentKind? id = none) ∨
      ∃ p kind name, t.parent? id = some p ∧ t.parentKind? id = some kind ∧
        t.Stands (t.parent? p) kind name p ∧ kind.canAppearUnder (t.parentKind? p) = true ∧
          ∀ a ∈ t.ancestors p, t.Regular a := by
  rcases hp : t.parent? id with _ | p
  · exact .inl ⟨rfl, by rw [parentKind?, hp]; rfl⟩
  · have hancestors : t.ancestors id = p :: t.ancestors p := Forest.ancestors_of_parent? hf hp
    rw [hancestors] at habove
    obtain ⟨kind, name, hstands, hcan⟩ := habove p List.mem_cons_self
    refine .inr ⟨p, kind, name, rfl, ?_, hstands, hcan, fun a ha =>
      habove a (List.mem_cons_of_mem p ha)⟩
    rw [parentKind?, hp, Option.bind_some, hstands.node]
    rfl

theorem parent?_eq_none_of_catalog (hf : t.forest.Linked)
    (habove : ∀ a ∈ t.ancestors id, t.Regular a)
    (hcan : ObjectKind.catalog.canAppearUnder (t.parentKind? id) = true) : t.parent? id = none := by
  rcases parentKind?_cases hf habove with ⟨hp, -⟩ | ⟨p, kind, name, -, hkind, -⟩
  · exact hp
  · rw [hkind] at hcan
    cases hcan

theorem exists_stock_of_schema (hf : t.forest.Linked) (habove : ∀ a ∈ t.ancestors id, t.Regular a)
    (hcan : ObjectKind.schema.canAppearUnder (t.parentKind? id) = true) :
    ∃ key base, t.Stock (t.parent? id) key base := by
  rcases parentKind?_cases hf habove with ⟨hp, -⟩ | ⟨p, kind, name, hp, hkind, hstands, hcan', hp'⟩
  · rw [hp]
    obtain ⟨base, hbase⟩ := t.exists_stock_top
    exact ⟨_, base, hbase⟩
  · rw [hp]
    rw [hkind] at hcan
    cases kind <;> cases hcan
    have htop := parent?_eq_none_of_catalog hf hp' hcan'
    rw [htop] at hstands
    exact ⟨_, _, .catalog hstands⟩

/-- What a table or procedure may stand in is a site, if what is loose there is not hidden. -/
theorem exists_site (hf : t.forest.Linked) (hs : subject ≠ .column)
    (habove : ∀ a ∈ t.ancestors id, t.Regular a)
    (hcan : subject.kind.canAppearUnder (t.parentKind? id) = true)
    (hspills : ∀ c x, t.Stands none .catalog x c → t.parent? id = some c → t.SpillsTogether x) :
    ∃ catalog schema, t.Site (t.parent? id) catalog schema := by
  rcases parentKind?_cases hf habove with ⟨hp, -⟩ | ⟨p, kind, name, hp, hkind, hstands, hcan', hp'⟩
  · rw [hp]
    obtain ⟨base, hbase⟩ := t.exists_stock_top
    exact ⟨none, none, .loose hbase (by simp)⟩
  · rw [hkind] at hcan
    have hcontainer : kind = .catalog ∨ kind = .schema := by
      cases subject <;> cases kind <;>
        first | exact .inl rfl | exact .inr rfl | exact absurd rfl hs | cases hcan
    rcases hcontainer with rfl | rfl
    · rw [parent?_eq_none_of_catalog hf hp' hcan'] at hstands
      have hspill := hspills p name hstands hp
      rw [hp]
      refine ⟨some name, none, .loose (.catalog hstands) ?_⟩
      rintro x ⟨⟩
      exact hspill
    · obtain ⟨key, base, hbase⟩ := exists_stock_of_schema hf hp' hcan'
      rw [hp]
      exact ⟨key, some name, .inSchema hbase hstands⟩

/-! ## Decisions about nodes -/

theorem decide_eq {kind : ObjectKind} (hid : t.Stands place kind n id)
    (hcan : kind.canAppearUnder (t.parentKind? id) = true) (sieve : Sieve) :
    t.decide sieve id ⟨kind, some n⟩ = sieve.decide (.ofLinks n (t.linksAbove id)) kind := by
  simp only [decide, Text.nonBlank_some hid.named, if_pos hcan]

/-- Where a table or procedure is listed; a column goes with its table. -/
def listedPlace (t : LiveTree) (id : Nat) (kind : ObjectKind) : Option Nat :=
  if kind = .column then (t.parent? id).bind t.parent? else t.parent? id

/-- A node that can be decided is included if all above it is regular and it is not hidden by a
schema of another catalog. -/
theorem decide_scaffold (hf : t.forest.Linked) (hliteral : t.Literal) {kind : ObjectKind}
    (hid : t.Stands (t.parent? id) kind n id)
    (hcan : kind.canAppearUnder (t.parentKind? id) = true)
    (habove : ∀ a ∈ t.ancestors id, t.Regular a)
    (hspills : ∀ c x, kind.isContainer = false → t.Stands none .catalog x c →
      t.listedPlace id kind = some c → t.SpillsTogether x) :
    t.decide t.scaffold.compile.sieve id ⟨kind, some n⟩ = .ok .included := by
  rw [decide_eq hid hcan, linksAbove_eq_linksTo hf]
  have hname := Text.nonBlank_some hid.named
  -- Tables and procedures are decided by their sites.
  have hsubject : ∀ subject : RuleSubject, subject ≠ .column → kind = subject.kind →
      t.scaffold.compile.sieve.decide (.ofLinks n (t.linksTo (t.parent? id))) kind
        = .ok .included := by
    rintro subject hs rfl
    have hplace : t.listedPlace id subject.kind = t.parent? id :=
      if_neg (RuleSubject.kind_ne_column hs)
    rw [hplace] at hspills
    obtain ⟨catalog, schema, hsite⟩ := exists_site hf hs habove hcan
      fun c x => hspills c x subject.isContainer_kind
    rw [hsite.ofLinks_linksTo hf]
    exact hsite.decide_subject hf hliteral hs hid hsite.named.1 hsite.named.2 hname
  cases kind with
  | catalog =>
    have htop := parent?_eq_none_of_catalog hf habove hcan
    rw [htop] at hid ⊢
    exact hid.decide_catalog hf hname
  | schema =>
    obtain ⟨key, base, hbase⟩ := exists_stock_of_schema hf habove hcan
    rw [hbase.ofLinks_linksTo hf]
    exact hbase.decide_schema hf hid hbase.named hname
  | table => exact hsubject .table (by simp) rfl
  | procedure => exact hsubject .procedure (by simp) rfl
  | column =>
    rcases parentKind?_cases hf habove with ⟨-, hnone⟩ |
      ⟨p, kind, table, hp, hkind, hstands, hcan', hp'⟩
    · rw [hnone] at hcan
      cases hcan
    · rw [hkind] at hcan
      cases kind <;> cases hcan
      have hplace : t.listedPlace id .column = t.parent? p := by
        rw [listedPlace, if_pos rfl, hp, Option.bind_some]
      rw [hplace] at hspills
      have htable : RuleSubject.table ≠ .column := by simp
      obtain ⟨catalog, schema, hsite⟩ := exists_site hf htable hp' hcan'
        fun c x => hspills c x rfl
      rw [hp, hsite.ofLinks_linksTo_table hf hstands]
      exact hsite.decide_column hf hstands hsite.named.1 hsite.named.2
        (Text.nonBlank_some hstands.named) hname

theorem exists_decide_eq_error {node : LiveNode} (hn : t.node? id = some node)
    (h : ¬ t.Regular id) (sieve : Sieve) : ∃ e, t.decide sieve id node = .error e := by
  obtain ⟨kind, name⟩ := node
  rw [decide]
  rcases hname : Text.nonBlank name with _ | n
  · exact ⟨_, rfl⟩
  · obtain ⟨rfl, hb⟩ := Text.nonBlank_eq_some_iff.1 hname
    have hcan : ¬ kind.canAppearUnder (t.parentKind? id) = true := fun hcan =>
      h ⟨kind, n, ⟨hn, rfl, hb⟩, hcan⟩
    exact ⟨_, if_neg hcan⟩

/-! ## Every live tree -/

/-- The trees that come of discovered objects and of adding nodes one by one. -/
inductive Grown : LiveTree → Prop where
  | empty : Grown empty
  | ofObjects (objects : List DiscoveredObject) : Grown (ofObjects objects)
  | add {t t' : LiveTree} {place : Option Nat} {kind : ObjectKind} {name : Option String}
      {id : Nat} (ht : Grown t) (hadd : t.add? place kind name = some (id, t')) : Grown t'

namespace Grown

theorem plant (ht : t.Grown) (hplace : place.all t.forest.contains = true) (kind : ObjectKind)
    (name : Option String) : (t.plant place kind name).Grown :=
  .add ht (if_pos hplace)

/-- In a tree that has grown each node stands under an older one, and no number is free. -/
theorem linked_and_complete (ht : t.Grown) :
    t.forest.Linked ∧ ∀ id, id < t.size → t.forest.contains id = true := by
  induction ht with
  | empty => exact ⟨WellFormed.empty.links, WellFormed.empty.complete⟩
  | ofObjects objects =>
    have ht := ofObjects_wellFormed objects
    exact ⟨ht.links, ht.complete⟩
  | @add t t' place kind name id ht hadd ih =>
    obtain ⟨hlinked, hcomplete⟩ := ih
    rw [add?] at hadd
    split_ifs at hadd with hplace
    obtain ⟨-, rfl⟩ := Prod.mk.inj (Option.some.inj hadd)
    refine ⟨hlinked.plant (fun p hp => ?_) _, complete_plant hcomplete place kind name⟩
    rw [hp] at hplace
    exact hplace

/-- A node below regular nodes alone is included by the scaffold unless it is undetermined, and it is
included if it is regular itself. For what is loose in a catalog, or is a column there, schemas
must hide nothing that is loose in the catalogs of this name. -/
theorem scaffold_covers (ht : t.Grown) (hliteral : t.Literal) (shapes : List Shape)
    {node : LiveNode} (hn : t.node? id = some node) (habove : ∀ a ∈ t.ancestors id, t.Regular a)
    (hspills : ∀ c x, node.kind.isContainer = false → t.Stands none .catalog x c →
      t.listedPlace id node.kind = some c → t.SpillsTogether x) :
    ((t.reconcile t.scaffold.compile.sieve shapes).membership? id ≠ some .undetermined →
        (t.reconcile t.scaffold.compile.sieve shapes).membership? id = some .included) ∧
      (t.Regular id →
        (t.reconcile t.scaffold.compile.sieve shapes).membership? id = some .included) := by
  obtain ⟨hlinked, hcomplete⟩ := ht.linked_and_complete
  rw [membership?_eq hlinked hcomplete _ shapes hn]
  by_cases hregular : t.Regular id
  · obtain ⟨kind, n, hid, hcan⟩ := hregular
    obtain rfl := Option.some.inj (hid.node.symm.trans hn)
    rw [decide_scaffold hlinked hliteral hid hcan habove hspills]
    exact ⟨fun _ => rfl, fun _ => rfl⟩
  · obtain ⟨e, he⟩ := exists_decide_eq_error hn hregular t.scaffold.compile.sieve
    rw [he]
    exact ⟨fun hne => absurd rfl hne, fun h => absurd h hregular⟩

end Grown

/-- Two catalogs of one name: beside the loose table of the first stands a schema, the second holds
a loose table alone. -/
def twinSales : LiveTree :=
  ((((empty.plant none .catalog (some "SALES")).plant (some 0) .schema (some "EU")).plant
    (some 0) .table (some "T")).plant none .catalog (some "SALES")).plant (some 3) .table (some "U")

theorem twinSales_grown : twinSales.Grown :=
  ((((Grown.empty.plant rfl _ _).plant rfl _ _).plant rfl _ _).plant rfl _ _).plant rfl _ _

theorem twinSales_literal : twinSales.Literal :=
  .of_anchored ["T", "U"] (by decide +kernel) (by decide +kernel)

theorem twinSales_spillsTogether : twinSales.SpillsTogether "SALES" :=
  .inr ⟨0, "EU", 1, .table, "T", 2, ⟨by decide, by decide, by decide⟩,
    ⟨by decide, by decide, by decide⟩, by decide, ⟨by decide, by decide, by decide⟩⟩

theorem twinSales_regular : ∀ a ∈ twinSales.ancestors 4, twinSales.Regular a := by
  intro a ha
  obtain rfl : a = 3 := List.mem_singleton.1 ha
  exact ⟨.catalog, "SALES", ⟨by decide, by decide, by decide⟩, by decide⟩

theorem scaffold_covers_twinSales :
    twinSales.Grown ∧ twinSales.Literal ∧ (∀ a ∈ twinSales.ancestors 4, twinSales.Regular a) ∧
      twinSales.SpillsTogether "SALES" ∧ twinSales.Regular 4 ∧
        (twinSales.reconcile twinSales.scaffold.compile.sieve []).membership? 4
          = some .included := by
  have hn : twinSales.node? 4 = some ⟨.table, some "U"⟩ := by decide
  have hregular : twinSales.Regular 4 :=
    ⟨.table, "U", ⟨by decide, by decide, by decide⟩, by decide⟩
  -- The table stands in the second catalog, of the same name as the first.
  have hspills : ∀ c x, ObjectKind.table.isContainer = false → twinSales.Stands none .catalog x c →
      twinSales.listedPlace 4 .table = some c → twinSales.SpillsTogether x := by
    intro c x _ hc hplace
    have hthree : twinSales.listedPlace 4 .table = some 3 := by decide
    obtain rfl : c = 3 := Option.some.inj (hplace.symm.trans hthree)
    have hsales : twinSales.node? 3 = some ⟨.catalog, some "SALES"⟩ := by decide
    obtain ⟨-, hx⟩ := LiveNode.mk.inj (Option.some.inj (hc.node.symm.trans hsales))
    obtain rfl := Option.some.inj hx
    exact twinSales_spillsTogether
  exact ⟨twinSales_grown, twinSales_literal, twinSales_regular, twinSales_spillsTogether, hregular,
    (twinSales_grown.scaffold_covers twinSales_literal [] hn twinSales_regular hspills).2 hregular⟩

/-- A catalog with a blank name beside another, and a catalog in a schema: the tables that stand in
these two are passed over. -/
def skippedParents : LiveTree :=
  ((((((empty.plant none .catalog (some "SALES")).plant none .catalog (some " ")).plant
    (some 1) .table (some "T")).plant none .schema (some "EU")).plant
    (some 3) .table (some "U")).plant (some 3) .catalog (some "ARCHIVE")).plant
    (some 5) .table (some "V")

theorem skippedParents_excludes :
    skippedParents.Grown ∧ skippedParents.Literal ∧
      (skippedParents.reconcile skippedParents.scaffold.compile.sieve []).membership? 2
        = some .excluded ∧
      (skippedParents.reconcile skippedParents.scaffold.compile.sieve []).membership? 6
        = some .excluded := by
  refine ⟨?_, ?_, ?_, ?_⟩
  · exact ((((((Grown.empty.plant rfl _ _).plant rfl _ _).plant rfl _ _).plant rfl _ _).plant
      rfl _ _).plant rfl _ _).plant rfl _ _
  · exact .of_anchored ["T", "U", "V"] (by decide +kernel) (by decide +kernel)
  · decide +kernel
  · decide +kernel

end LiveTree

end SchemaSieve
