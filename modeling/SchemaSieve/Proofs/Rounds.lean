import Mathlib.Tactic
import SchemaSieve.Proofs.Branches
import SchemaSieve.Proofs.Undetermined

/-!
# Scaffolding in rounds

Scaffolding can be done in rounds, with one list of what is pending: each round takes the next
container off the list, fills it and puts what was opened in it on top. However live nodes are named
and nested, the rounds come to an end, and what they have made then is the scaffold
(`leads_scaffold`). Nothing is wrong with it: it consists of namespaces and of includes of exact
names, everything stands where it may, and each table and procedure that can be listed is found
below containers with the names of its catalog and its schema (`Grown.rounds_end_clean`).
-/

namespace SchemaSieve

namespace Scaffolding

open LiveTree (Opens)

variable {live : LiveTree} {rules : RuleTree} {place : Nat} {holder : RuleNode}
  {above : List RuleNode} {s s' s'' : Scaffolding}

/-! ## Rounds -/

/-- Fills a container with the live nodes that share it. -/
def filled (live : LiveTree) (rules : RuleTree) (place : Nat) (s : Sharing) : Scaffolding :=
  fill live rules place s.shown s.wildcard s.hidden

/-- Fills the next container that is pending, and makes what was opened in it pending next. -/
def round (live : LiveTree) (s : Scaffolding) : Scaffolding :=
  match s.pending with
  | [] => s
  | (place, members) :: rest =>
    let sharing :=
      match s.rules.node? place with
      | some holder => live.share holder members
      | none => ⟨.schema none, [], members⟩
    let next := filled live s.rules place sharing
    ⟨next.rules, next.pending ++ rest⟩

/-- Before the first round: there are no rules, and all that stands at the top is pending. -/
def start (live : LiveTree) : Scaffolding := ⟨.empty, [(RuleTree.rootId, live.roots)]⟩

/-- Whether some rounds make one scaffolding of another. -/
def Leads (live : LiveTree) (s s' : Scaffolding) : Prop := ∃ rounds, (round live)^[rounds] s = s'

theorem Leads.refl (s : Scaffolding) : Leads live s s := ⟨0, rfl⟩

theorem Leads.trans (h : Leads live s s') (h' : Leads live s' s'') : Leads live s s'' := by
  obtain ⟨n, rfl⟩ := h
  obtain ⟨m, rfl⟩ := h'
  exact ⟨m + n, Function.iterate_add_apply _ m n s⟩

/-- One round fills the container that is next. -/
theorem leads_round (hplace : rules.node? place = some holder) (members : List Nat)
    (rest : List (Nat × List Nat)) :
    Leads live ⟨rules, (place, members) :: rest⟩
      ⟨(filled live rules place (live.share holder members)).rules,
        (filled live rules place (live.share holder members)).pending ++ rest⟩ := by
  refine ⟨1, ?_⟩
  simp only [Function.iterate_one, round, hplace]

/-- Whether work on a container that is pending adds to the rules what the rounds add until it and
all that was opened in it are done. -/
def WorksOff (live : LiveTree) (work : RuleTree → Nat × List Nat → RuleTree) (c : List RuleNode)
    (e : Nat × List Nat) : Prop :=
  ∀ rules : RuleTree, rules.Tidy → rules.forest.contains e.1 = true → rules.chain e.1 = c →
    (∃ new, rules.Grows (work rules e) new) ∧
      ∀ rest, Leads live ⟨rules, e :: rest⟩ ⟨work rules e, rest⟩

variable {work : RuleTree → Nat × List Nat → RuleTree}

/-- What is pending is worked off from the front, each container with all that is opened in it. -/
theorem leads_foldl :
    ∀ (pending : List (Nat × List Nat)) {rules : RuleTree}, rules.Tidy →
      (∀ e ∈ pending, rules.forest.contains e.1 = true) →
      (∀ e ∈ pending, WorksOff live work (rules.chain e.1) e) →
      ∀ rest, Leads live ⟨rules, pending ++ rest⟩ ⟨pending.foldl work rules, rest⟩
  | [], rules, _, _, _, rest => .refl _
  | e :: pending, rules, ht, hstands, hwork, rest => by
    have he := hstands e List.mem_cons_self
    obtain ⟨⟨new, hgrows⟩, hleads⟩ := hwork e List.mem_cons_self rules ht he rfl
    -- The work on one container leaves the others where they are.
    have hrest := leads_foldl pending hgrows.tidy
      (fun e' he' => hgrows.contains (hstands e' (List.mem_cons_of_mem e he')))
      (fun e' he' => by
        rw [hgrows.chain_eq ht (hstands e' (List.mem_cons_of_mem e he'))]
        exact hwork e' (List.mem_cons_of_mem e he'))
    exact (hleads (pending ++ rest)).trans (hrest rest)

/-- What is opened for hidden nodes may stand where it is opened. -/
theorem canContain_wildcard (live : LiveTree) (holder : RuleNode) (members : List Nat)
    (hhidden : (live.share holder members).hidden ≠ []) :
    holder.canContain (live.share holder members).wildcard = true ∧
      (live.share holder members).wildcard.Plain := by
  rcases holder with _ | _ | _ | _
  · simp only [LiveTree.share]
    split_ifs <;> exact ⟨rfl, rfl⟩
  · exact ⟨rfl, rfl⟩
  · exact absurd rfl hhidden
  · exact absurd rfl hhidden

/-- The rounds fill a container and then work off what was opened in it. -/
theorem leads_fill (work : RuleTree → Nat × List Nat → RuleTree) (ht : rules.Tidy)
    (hplace : rules.forest.contains place = true)
    (hchain : rules.chain place = holder :: above) (members : List Nat)
    (hwork : ∀ c id l, live.Opens holder above (live.share holder members) c l →
      WorksOff live work c (id, l)) (rest : List (Nat × List Nat)) :
    Leads live ⟨rules, (place, members) :: rest⟩
      ⟨(filled live rules place (live.share holder members)).pending.foldl work
          (filled live rules place (live.share holder members)).rules, rest⟩ := by
  have hn := ht.wellFormed.node?_of_chain hplace hchain
  have hfill := fill_grows live ht hn hchain (live.share holder members)
    (canContain_wildcard live holder members)
  refine (leads_round hn members rest).trans ?_
  refine leads_foldl _ hfill.rules.tidy hfill.stands (fun e he => ?_) rest
  rcases (hfill.awaits _ e.2).1 ⟨e.1, he, rfl⟩ with ⟨_, hnone, -⟩ | hopens
  · cases hnone
  · exact hwork _ e.1 e.2 hopens

end Scaffolding

namespace LiveTree

open Scaffolding

variable {live : LiveTree} {rules : RuleTree} {place : Nat} {above : List RuleNode}

/-! ## The rounds end -/

theorem worksOff_fillSchema (live : LiveTree) (name : Option String) (above : List RuleNode)
    (e : Nat × List Nat) :
    WorksOff live (fun rules e => live.fillSchema rules e.1 e.2) (.schema name :: above) e := by
  intro rules ht hplace hchain
  refine ⟨⟨_, fillSchema_grows ht hplace hchain e.2⟩, fun rest => ?_⟩
  -- Nothing is opened in a schema, so any work will do.
  have hleads := leads_fill (fun rules _ => rules) ht hplace hchain e.2
    (fun _ _ _ (hopens : live.Opens _ _ _ _ _) => absurd hopens not_opens_schema) rest
  rwa [List.foldl_fixed] at hleads

theorem worksOff_fillCatalog (live : LiveTree) (name : Option String) (above : List RuleNode)
    (e : Nat × List Nat) :
    WorksOff live (fun rules e => live.fillCatalog rules e.1 e.2) (.catalog name :: above) e := by
  intro rules ht hplace hchain
  refine ⟨⟨_, fillCatalog_grows ht hplace hchain e.2⟩, fun rest => ?_⟩
  refine leads_fill _ ht hplace hchain e.2 (fun c id l hopens => ?_) rest
  obtain ⟨rule, rfl, hcont, hcan⟩ := hopens.chain_eq
  rcases rule with _ | _ | name | _
  · cases hcan
  · cases hcan
  · exact worksOff_fillSchema live name _ (id, l)
  · cases hcont

theorem worksOff_fillContainer (live : LiveTree) {rule : RuleNode} (hcont : rule.isContainer = true)
    (hroot : rule ≠ .root) (above : List RuleNode) (e : Nat × List Nat) :
    WorksOff live (fun rules e => live.fillContainer rules e.1 e.2) (rule :: above) e := by
  intro rules ht hplace hchain
  have hn := ht.wellFormed.node?_of_chain hplace hchain
  rcases rule with _ | name | name | _
  · exact absurd rfl hroot
  · simp only [fillContainer, hn]
    exact worksOff_fillCatalog live name above e rules ht hplace hchain
  · simp only [fillContainer, hn]
    exact worksOff_fillSchema live name above e rules ht hplace hchain
  · cases hcont

/-- After some rounds nothing is pending, and the rules are those of the scaffold. -/
theorem leads_scaffold (live : LiveTree) : Leads live (start live) ⟨live.scaffold, []⟩ := by
  have hroot := RuleTree.Tidy.empty.wellFormed
  have hleads := leads_fill (fun rules e => live.fillContainer rules e.1 e.2)
    RuleTree.Tidy.empty hroot.contains_root hroot.chain_root live.roots
    (fun c id l hopens => by
      obtain ⟨rule, rfl, hcont, hcan⟩ := hopens.chain_eq
      refine worksOff_fillContainer live hcont ?_ _ (id, l)
      rintro rfl
      cases hcan) []
  rw [scaffold_eq]
  exact hleads

/-! ## What a scaffold consists of -/

/-- What live nodes are listed as: a namespace without a name or with that of a live one, or an
include of the exact name of a live table or procedure. -/
inductive Listed (t : LiveTree) : RuleNode → Prop where
  | catalog {name : Option String}
      (h : ∀ x ∈ name, ∃ id, t.Stands (t.parent? id) .catalog x id) : Listed t (.catalog name)
  | schema {name : Option String}
      (h : ∀ s ∈ name, ∃ id, t.Stands (t.parent? id) .schema s id) : Listed t (.schema name)
  | rule {subject : RuleSubject} {n : String} {id : Nat} (hs : subject ≠ .column)
      (hid : t.Stands (t.parent? id) subject.kind n id) :
    Listed t (.rule subject .includes (Regex.escape n))

variable {t : LiveTree} {place : Option Nat} {key : Option String} {base c : List RuleNode}
  {subject : RuleSubject} {n : String} {id : Nat}

theorem Stands.stands_parent? {kind : ObjectKind} (h : t.Stands place kind n id) :
    t.Stands (t.parent? id) kind n id :=
  ⟨h.node, rfl, h.named⟩

theorem Origin.listed (h : t.Origin c) : ∃ node above, c = node :: above ∧ t.Listed node := by
  cases h with
  | catalog h => exact ⟨_, _, rfl, .catalog fun x hx => ⟨_, Option.some.inj hx ▸ h.stands_parent?⟩⟩
  | anyCatalog h => exact ⟨_, _, rfl, .catalog (by simp)⟩
  | schema _ hm =>
    exact ⟨_, _, rfl, .schema fun s hs => ⟨_, Option.some.inj hs ▸ hm.stands_parent?⟩⟩
  | anySchema _ _ _ _ => exact ⟨_, _, rfl, .schema (by simp)⟩
  | inSchema _ _ hs hid => exact ⟨_, _, rfl, .rule hs hid.stands_parent?⟩
  | hidden _ _ hs hid => exact ⟨_, _, rfl, .rule hs hid.stands_parent?⟩
  | shown _ _ hs hid => exact ⟨_, _, rfl, .rule hs hid.stands_parent?⟩

/-- Below its root a scaffold consists of what live nodes are listed as. -/
theorem listed_of_node? (hf : t.forest.Linked) {i : Nat} {node : RuleNode}
    (hn : t.scaffold.node? i = some node) :
    i = RuleTree.rootId ∧ node = .root ∨ t.Listed node := by
  have ht := t.scaffold_tidy
  have hid := Forest.contains_of_value? hn
  by_cases hroot : t.scaffold.chain i = [.root]
  · have hnode := ht.wellFormed.node?_of_chain hid hroot
    exact .inl ⟨(ht.legal_of_contains hid).eq_rootId hnode, Option.some.inj (hn.symm.trans hnode)⟩
  · obtain ⟨v, above, hchain, hlisted⟩ := (origin_of_holds hf ⟨i, hid, rfl⟩ hroot).listed
    have hv := ht.wellFormed.node?_of_chain hid hchain
    obtain rfl := Option.some.inj (hn.symm.trans hv)
    exact .inr hlisted

end LiveTree

/-! ## Nothing is wrong with a scaffold -/

namespace RuleTree

variable {t : RuleTree}

/-- Nothing is wrong with a tidy tree if all its patterns are valid. -/
theorem Tidy.findings_compile_eq_nil (ht : t.Tidy)
    (hvalid : ∀ id node, t.node? id = some node →
      ∀ source ∈ node.pattern?, (validPattern? source).isSome = true) :
    t.compile.findings = [] := by
  have hbelow : ∀ {id : Nat} {node : RuleNode}, t.node? id = some node →
      ∀ path, findingsFrom path (t.branchAt id node) = [] := by
    intro id node hn
    -- On the way down: what the node may hold, and then what it holds.
    induction hn using ht.wellFormed.downward with
    | step id node hn ih =>
      intro path
      rw [findingsFrom_eq, List.append_eq_nil_iff, List.append_eq_nil_iff]
      refine ⟨⟨patternFindings_eq_nil_iff.2 (hvalid id node hn), ?_⟩, ?_⟩
      · rw [misplacedFindings, children_branchAt ht.wellFormed, List.map_eq_nil_iff,
          List.filter_eq_nil_iff]
        intro b hb
        obtain ⟨c, hc, rfl⟩ := List.mem_map.1 hb
        obtain ⟨hp, hnode⟩ := (mem_childNodes ht.wellFormed.links).1 hc
        simpa [branchAt, Branch.value] using ht.legal hp hnode hn
      · rw [legalChildren_branchAt ht.wellFormed, List.flatMap_eq_nil_iff]
        intro b hb
        obtain ⟨c, hc, rfl⟩ := List.mem_map.1 hb
        exact ih c (List.mem_filter.1 hc).1 _
  rw [compile, branch_eq ht.wellFormed]
  exact hbelow ht.wellFormed.node?_root _

end RuleTree

namespace LiveTree

variable {t : LiveTree} {place : Option Nat} {key : Option String} {base : List RuleNode}
  {subject : RuleSubject} {n s : String} {id m : Nat}

theorem findings_compile_scaffold (hf : t.forest.Linked)
    (hcompiles : ∀ id subject n, subject ≠ .column →
      t.Stands (t.parent? id) (RuleSubject.kind subject) n id →
        ∃ p, NamePattern.ofSource (Regex.escape n) = .ok p) :
    t.scaffold.compile.findings = [] := by
  refine t.scaffold_tidy.findings_compile_eq_nil fun i node hn source hsource => ?_
  rcases listed_of_node? hf hn with ⟨-, rfl⟩ | hlisted
  · cases hsource
  · cases hlisted with
    | catalog _ | schema _ => cases hsource
    | rule hs hid =>
      obtain rfl := Option.some.inj hsource
      obtain ⟨p, hp⟩ := hcompiles _ _ _ hs hid
      rw [validPattern?, isBlank_escape hid.named, hp]
      rfl

/-! ## Where tables and procedures are found -/

/-- Whether some containers bear the name of a namespace: there is one of this name, or none at all
if there is no name. -/
def Bears (container : Option String → RuleNode) (name : Option String)
    (containers : List RuleNode) : Prop :=
  containers = [container name] ∨ name = none ∧ containers = []

/-- Whether a scaffold includes a name below containers that bear the names of a catalog and of a
schema in it. -/
def ListedIn (t : LiveTree) (catalog schema : Option String) (subject : RuleSubject) (n : String) :
    Prop :=
  ∃ catalogs schemas, Bears .catalog catalog catalogs ∧ Bears .schema schema schemas ∧
    t.scaffold.Holds
      (.rule subject .includes (Regex.escape n) :: (schemas ++ (catalogs ++ [.root])))

theorem Stock.bears (h : t.Stock place key base) :
    ∃ catalogs, Bears .catalog key catalogs ∧ base = catalogs ++ [.root] := by
  cases h with
  | catalog _ | outside _ => exact ⟨_, .inl rfl, rfl⟩
  | root _ => exact ⟨_, .inr ⟨rfl, rfl⟩, rfl⟩

/-- What is loose at a place is listed in its stock, or there in a schema without a name. -/
theorem Stock.listedIn_loose (hf : t.forest.Linked) (h : t.Stock place key base)
    (hs : subject ≠ .column) (hid : t.Stands place subject.kind n id) :
    t.ListedIn key none subject n := by
  obtain ⟨catalogs, hcatalogs, hbase⟩ := h.bears
  obtain ⟨holder, above, members, rfl, hfills⟩ := h.exists_fills hf
  refine ⟨catalogs, ?_⟩
  rw [← hbase]
  by_cases hschema : ∃ s m, t.Stands place .schema s m
  · obtain ⟨s, m, hm⟩ := hschema
    exact ⟨_, hcatalogs, .inl rfl, hfills.holds_hidden hm hs hid⟩
  · have hno : ∀ s m, ¬ t.Stands place .schema s m := fun s m hm => hschema ⟨s, m, hm⟩
    exact ⟨_, hcatalogs, .inr ⟨rfl, rfl⟩, hfills.holds_shown hno hs hid⟩

/-- What stands in a named schema is listed in a schema of this name. -/
theorem Stock.listedIn_schema (hf : t.forest.Linked) (h : t.Stock place key base)
    (hm : t.Stands place .schema s m) (hs : subject ≠ .column)
    (hid : t.Stands (some m) subject.kind n id) :
    t.ListedIn key (some s) subject n := by
  obtain ⟨catalogs, hcatalogs, hbase⟩ := h.bears
  obtain ⟨holder, above, members, rfl, hfills⟩ := h.exists_fills hf
  refine ⟨catalogs, [.schema (some s)], hcatalogs, .inl rfl, ?_⟩
  rw [← hbase]
  exact hfills.holds_inSchema hm hs hid

/-- The path to the place of a node has the names of the nearest catalog and schema above it. -/
theorem nearest?_eq_of_linksTo (hf : t.forest.Linked) {catalog schema table : Option String}
    (h : ObjectPath.ofLinks n (t.linksTo (t.parent? id)) = ⟨catalog, schema, table, some n⟩) :
    t.nearest? .catalog id = catalog ∧ t.nearest? .schema id = schema := by
  rw [← linksAbove_eq_linksTo hf, ofLinks_eq_nearest?] at h
  injection h with hcatalog hschema
  exact ⟨hcatalog, hschema⟩

/-- A regular table or procedure below regular nodes alone is listed, by the names of the nearest
catalog and schema above it. -/
theorem Regular.listedIn (hf : t.forest.Linked) (hid : t.Regular id)
    (habove : ∀ a ∈ t.ancestors id, t.Regular a) (hs : subject ≠ .column)
    (hn : t.node? id = some ⟨subject.kind, some n⟩) :
    t.ListedIn (t.nearest? .catalog id) (t.nearest? .schema id) subject n := by
  obtain ⟨kind, name, hstands, hcan⟩ := hid
  obtain ⟨rfl, hname⟩ := LiveNode.mk.inj (Option.some.inj (hstands.node.symm.trans hn))
  obtain rfl := Option.some.inj hname
  have hloose : ∀ {key base}, t.Stock (t.parent? id) key base →
      t.ListedIn (t.nearest? .catalog id) (t.nearest? .schema id) subject name := by
    intro key base hbase
    obtain ⟨hcatalog, hschema⟩ := nearest?_eq_of_linksTo hf (hbase.ofLinks_linksTo hf name)
    rw [hcatalog, hschema]
    exact hbase.listedIn_loose hf hs hstands
  -- It stands at the top, in a catalog at the top, or in a schema that stands in one of these.
  rcases parentKind?_cases hf habove with ⟨hp, -⟩ | ⟨p, kind, s, hp, hkind, hparent, hcan', hp'⟩
  · obtain ⟨base, hbase⟩ := t.exists_stock_top
    exact hloose (hp ▸ hbase)
  · rw [hkind] at hcan
    cases kind with
    | catalog =>
      rw [parent?_eq_none_of_catalog hf hp' hcan'] at hparent
      exact hloose (hp ▸ Stock.catalog hparent)
    | schema =>
      obtain ⟨key, base, hbase⟩ := exists_stock_of_schema hf hp' hcan'
      have hsite : t.Site (t.parent? id) key (some s) := hp ▸ .inSchema hbase hparent
      obtain ⟨hcatalog, hschema⟩ := nearest?_eq_of_linksTo hf (hsite.ofLinks_linksTo hf name)
      rw [hcatalog, hschema]
      exact hbase.listedIn_schema hf hparent hs (hp ▸ hstands)
    | table | procedure | column =>
      cases subject <;> first | exact absurd rfl hs | cases hcan

/-- The rounds of scaffolding come to an end. Nothing but what live nodes are listed as stands below
the root of the scaffold, nothing is wrong with it if the names of live tables and procedures
compile, and each of these that can be listed is found below containers with the names of its
catalog and schema. -/
theorem Grown.rounds_end_clean (ht : t.Grown) :
    (∃ rounds, (Scaffolding.round t)^[rounds] (.start t) = ⟨t.scaffold, []⟩) ∧
    (∀ i node, t.scaffold.node? i = some node →
      i = RuleTree.rootId ∧ node = .root ∨ t.Listed node) ∧
    ((∀ id subject n, subject ≠ .column →
        t.Stands (t.parent? id) (RuleSubject.kind subject) n id →
          ∃ p, NamePattern.ofSource (Regex.escape n) = .ok p) →
      t.scaffold.compile.findings = []) ∧
    ∀ id subject n, t.Regular id → (∀ a ∈ t.ancestors id, t.Regular a) → subject ≠ .column →
      t.node? id = some ⟨RuleSubject.kind subject, some n⟩ →
        t.ListedIn (t.nearest? .catalog id) (t.nearest? .schema id) subject n :=
  have hf := ht.linked_and_complete.1
  ⟨t.leads_scaffold, fun _ _ => listed_of_node? hf, findings_compile_scaffold hf,
    fun _ _ _ hid habove hs hn => hid.listedIn hf habove hs hn⟩

/-- A catalog with a schema of a blank name in it, and beside it a schema with a procedure; in these
two stand tables that are passed over. -/
def mixedNesting : LiveTree :=
  (((((empty.plant none .catalog (some "SALES")).plant (some 0) .schema (some " ")).plant
    (some 1) .table (some "T")).plant none .schema (some "EU")).plant
    (some 3) .procedure (some "calc.total")).plant (some 4) .table (some "U")

/-- The schema moves into a catalog without a name. -/
theorem rounds_end_clean_mixedNesting :
    mixedNesting.Grown ∧
      (∃ rounds, (Scaffolding.round mixedNesting)^[rounds] (.start mixedNesting)
        = ⟨mixedNesting.scaffold, []⟩) ∧
      mixedNesting.scaffold.compile.findings = [] ∧
      mixedNesting.ListedIn none (some "EU") .procedure "calc.total" := by
  have ht : mixedNesting.Grown :=
    (((((Grown.empty.plant rfl _ _).plant rfl _ _).plant rfl _ _).plant rfl _ _).plant
      rfl _ _).plant rfl _ _
  have hliteral : mixedNesting.Literal :=
    .of_anchored ["T", "calc.total", "U"] (by decide +kernel) (by decide +kernel)
  have hregular : ∀ a ∈ [3, 4], mixedNesting.Regular a := by
    intro a ha
    rcases List.mem_pair.1 ha with rfl | rfl
    · exact ⟨.schema, "EU", ⟨by decide, by decide, by decide⟩, by decide⟩
    · exact ⟨.procedure, "calc.total", ⟨by decide, by decide, by decide⟩, by decide⟩
  obtain ⟨hrounds, -, hclean, hlisted⟩ := ht.rounds_end_clean
  refine ⟨ht, hrounds, hclean fun id subject n hs hid => ?_, ?_⟩
  · have hkind : subject.kind = .table ∨ subject.kind = .procedure := by
      cases subject <;> first | exact .inl rfl | exact .inr rfl | exact absurd rfl hs
    obtain ⟨p, hp, -⟩ := hliteral hid.node hkind hid.named
    exact ⟨p, hp⟩
  · have habove : mixedNesting.ancestors 4 = [3] := by decide
    refine hlisted 4 .procedure "calc.total" (hregular 4 (by simp)) ?_ (by simp) (by decide)
    intro a ha
    obtain rfl : a = 3 := by simpa [habove] using ha
    exact hregular 3 (by simp)

end LiveTree

end SchemaSieve
