import Mathlib.Tactic
import SchemaSieve.Proofs.Covering
import SchemaSieve.Reconcile.Listing

/-!
# Both listings list the same objects

The listing as text comes from a walk that keeps the nodes that wait and counts how deep it is, the
listing as JSON from the nodes by number. On a tree that grows node by node the walk visits each
node once, before all that is below it, and at the depth of its ancestors (`visitsWithin_roots`).
From a line the depth, the membership, the kind and the name of a node can be read again
(`ListedNode.showsIn_line`), from an entry all that is said of it (`AnnotatedNode.enters_toJson`).
So both listings hold the same objects, whatever they are kept to (`Grown.listed_alike`).
-/

namespace SchemaSieve

open Text (Json)

/-! ## The walk -/

namespace LiveTree

variable {t : LiveTree}

/-- A node and the number of nodes it is below. -/
def atDepth (t : LiveTree) (id : Nat) : Nat × Nat := (id, (t.ancestors id).length)

theorem map_roots_eq (hf : t.forest.Linked) : t.roots.map (·, 0) = t.roots.map t.atDepth := by
  refine List.map_congr_left fun id hid => ?_
  have hp : t.forest.parent? id = none := (hf.mem_roots.1 hid).2
  rw [atDepth, ancestors, Forest.ancestors_of_parent?_eq_none hp, List.length_nil]

theorem map_children_eq (hf : t.forest.Linked) (id : Nat) :
    (t.children id).map (·, (t.ancestors id).length + 1) = (t.children id).map t.atDepth := by
  refine List.map_congr_left fun c hc => ?_
  have hp : t.forest.parent? c = some id := hf.mem_children.1 hc
  rw [atDepth, ancestors, ancestors, Forest.ancestors_of_parent? hf hp, List.length_cons]

/-- From nodes that wait at their depths, the visits are those of the walk, as far as they go. -/
theorem visitsWithin_eq (hf : t.forest.Linked) {waiting order : List Nat}
    (h : t.forest.Walk waiting order) {fuel : Nat} (hfuel : order.length ≤ fuel) :
    t.visitsWithin fuel (waiting.map t.atDepth) = order.map t.atDepth := by
  induction h generalizing fuel with
  | done => cases fuel <;> rfl
  | @visit id waiting order _ ih =>
    rw [List.length_cons] at hfuel
    obtain ⟨n, rfl⟩ : ∃ n, fuel = n + 1 := ⟨fuel - 1, by omega⟩
    have hrest := ih (Nat.le_of_succ_le_succ hfuel)
    have hnext : ((t.children id).map (·, (t.ancestors id).length + 1) ++ waiting.map t.atDepth)
        = (t.forest.children id ++ waiting).map t.atDepth := by
      rw [map_children_eq hf, List.map_append]
      rfl
    rw [List.map_cons, List.map_cons, ← hrest, ← hnext]
    rfl

/-- The walk from the roots visits the nodes in pre-order, and then nothing waits. -/
theorem visitsWithin_roots (hf : t.forest.Linked) {fuel : Nat} (hfuel : t.size ≤ fuel) :
    t.visitsWithin fuel (t.roots.map (·, 0)) = t.forest.preorder.map t.atDepth := by
  rw [map_roots_eq hf]
  exact visitsWithin_eq hf (Forest.walk_preorder hf) ((Forest.length_preorder_le hf).trans hfuel)

theorem visits_eq (hf : t.forest.Linked) : t.visits = t.forest.preorder.map t.atDepth :=
  visitsWithin_roots hf le_rfl

end LiveTree

/-! ## Lines -/

/-- The membership that a sign stands for. -/
def Membership.ofSign? : Char → Option Membership
  | '+' => some included
  | '-' => some excluded
  | '?' => some undetermined
  | _ => none

theorem Membership.exists_sign_eq (m : Membership) :
    ∃ c, m.sign.toList = [c] ∧ ofSign? c = some m ∧ (c == ' ') = false := by
  cases m <;> exact ⟨_, rfl, rfl, rfl⟩

/-- What can be read from a line about an object: how far it is indented, a membership, a kind, and
the text behind them. -/
structure LineReading where
  indent : Nat
  membership : Membership
  kind : ObjectKind
  text : String

/-- Reads blanks, a sign, the word for a kind and the rest of a line. -/
def LineReading.ofLine? (line : String) : Option LineReading :=
  match line.toList.dropWhile (· == ' ') with
  | sign :: ' ' :: rest => do
    let membership ← Membership.ofSign? sign
    let kind ← ObjectKind.ofName? (String.ofList (rest.takeWhile (· != ' ')))
    let text := (rest.dropWhile (· != ' ')).drop 1
    return ⟨(line.toList.takeWhile (· == ' ')).length, membership, kind, String.ofList text⟩
  | _ => none

/-- Whether a line is about a node: it shows the membership, the kind and the name, or that there is
none, and behind them the rules that describe the node if there are such and they are asked for. -/
def AnnotatedNode.ShowsIn (n : AnnotatedNode) (indent : Nat) (rules : Option RuleTree)
    (line : String) : Prop :=
  ∃ text, LineReading.ofLine? line = some ⟨indent, n.membership, n.kind, text⟩ ∧
    (rules = none ∨ n.matched = [] → text = n.name.getD "<unnamed>") ∧
    ∀ t, rules = some t → n.matched ≠ [] →
      text = n.name.getD "<unnamed>" ++ "  <- " ++
        ", ".intercalate ((n.matched.filterMap t.node?).map RuleNode.text)

theorem ObjectKind.blank_not_mem_name (kind : ObjectKind) : ' ' ∉ kind.name.toList := by
  cases kind <;> decide

theorem LineReading.ofLine?_eq {line : String} {indent : Nat} {m : Membership} {kind : ObjectKind}
    {text : String}
    (h : line.toList = List.replicate indent ' ' ++ (m.sign.toList ++ ' ' :: kind.name.toList ++
      ' ' :: text.toList)) :
    ofLine? line = some ⟨indent, m, kind, text⟩ := by
  obtain ⟨c, hsign, hm, hc⟩ := m.exists_sign_eq
  have hblanks : ∀ a ∈ List.replicate indent ' ', (a == ' ') = true := by
    intro a ha
    rw [List.eq_of_mem_replicate ha]
    rfl
  have hword : ∀ a ∈ kind.name.toList, (a != ' ') = true := by
    intro a ha
    rw [bne_iff_ne]
    rintro rfl
    exact kind.blank_not_mem_name ha
  -- The sign ends the blanks, and the blank behind the kind ends its word.
  have hstart : (List.replicate indent ' ' ++ ([c] ++ ' ' :: kind.name.toList ++
      ' ' :: text.toList)).dropWhile (· == ' ')
      = c :: ' ' :: (kind.name.toList ++ ' ' :: text.toList) := by
    rw [List.dropWhile_append_of_pos hblanks, List.singleton_append, List.cons_append,
      List.dropWhile_cons, hc]
    rfl
  have hindent : (List.replicate indent ' ' ++ ([c] ++ ' ' :: kind.name.toList ++
      ' ' :: text.toList)).takeWhile (· == ' ') = List.replicate indent ' ' := by
    rw [List.takeWhile_append_of_pos hblanks, List.singleton_append, List.cons_append,
      List.takeWhile_cons, hc]
    exact List.append_nil _
  have hkind : (kind.name.toList ++ ' ' :: text.toList).takeWhile (· != ' ')
      = kind.name.toList := by
    rw [List.takeWhile_append_of_pos hword]
    exact List.append_nil _
  have htext : (kind.name.toList ++ ' ' :: text.toList).dropWhile (· != ' ')
      = ' ' :: text.toList := by
    rw [List.dropWhile_append_of_pos hword]
    rfl
  rw [hsign] at h
  rw [ofLine?, h, hstart]
  simp only [hm, hkind, htext, hindent, String.ofList_toList, ObjectKind.ofName?_name,
    List.length_replicate, List.drop_one, List.tail_cons]
  rfl

/-- The line of an object shows it, indented by two blanks for each object that it is below. -/
theorem ListedNode.showsIn_line (e : ListedNode) (rules : Option RuleTree) :
    e.node.ShowsIn (2 * e.depth) rules (e.line rules) := by
  rcases rules with _ | t
  · refine ⟨_, LineReading.ofLine?_eq (by simp [line, toString]), fun _ => rfl, ?_⟩
    rintro _ ⟨⟩
  · by_cases hnone : e.node.matched = []
    · refine ⟨_, LineReading.ofLine?_eq (by simp [line, hnone, toString]), fun _ => rfl, ?_⟩
      exact fun _ _ hsome => absurd hnone hsome
    · refine ⟨e.node.name.getD "<unnamed>" ++ "  <- " ++
        ", ".intercalate ((e.node.matched.filterMap t.node?).map RuleNode.text),
        LineReading.ofLine?_eq (by simp [line, hnone, toString]), ?_, ?_⟩
      · rintro (⟨⟨⟩⟩ | hnone')
        exact absurd hnone' hnone
      · rintro _ ⟨rfl⟩ -
        rfl

/-! ## Entries -/

/-- The value at a key of a mapping. -/
def Text.Json.field? (key : String) : Json → Option Json
  | mapping entries => entries.lookup key
  | _ => none

/-- Whether an entry says what is said of a node. There is no field for a parent or for rules if the
node has none. -/
structure AnnotatedNode.Enters (n : AnnotatedNode) (entry : Json) : Prop where
  id : entry.field? "id" = some (.number n.id)
  kind : entry.field? "kind" = some (.text n.kind.name)
  name : entry.field? "name" = some (.optional n.name)
  path : entry.field? "path" = some (.text n.path)
  parent : entry.field? "parent" = n.parent.map .number
  membership : entry.field? "membership" = some (.text n.membership.name)
  matched : entry.field? "matches"
    = if n.matched = [] then none else some (.list (n.matched.map .number))

theorem AnnotatedNode.enters_toJson (n : AnnotatedNode) : n.Enters n.toJson := by
  obtain ⟨id, kind, name, path, parent, membership, _ | ⟨m, ms⟩⟩ := n <;>
    rcases parent with _ | p <;> exact ⟨rfl, rfl, rfl, rfl, rfl, rfl, rfl⟩

/-! ## Annotated trees -/

namespace AnnotatedTree

variable {a : AnnotatedTree} {t : LiveTree} {id : Nat} {n : AnnotatedNode}

theorem id_eq_of_node? (h : a.node? id = some n) : n.id = id := by
  obtain ⟨-, hid⟩ := Option.filter_eq_some_iff.1 h
  exact beq_iff_eq.1 hid

/-- Every node has one of the three memberships. -/
theorem count_add_count_add_count (a : AnnotatedTree) :
    a.count .included + a.count .excluded + a.count .undetermined = a.nodes.length := by
  simp only [count, withMembership]
  induction a.nodes with
  | nil => rfl
  | cons n ns ih =>
    rcases hm : n.membership <;> simp [hm] <;> omega

/-- Whether a node is kept shows in its membership. -/
theorem any_membership?_eq (a : AnnotatedTree) (only : Option Membership) (id : Nat) :
    ((a.membership? id).any fun m => only.all (· == m)) = (a.node? id).any (keeps only) := by
  rw [membership?, Option.any_map]
  rfl

/-- The objects of a listing as text, if the walk visits nodes in some order at their depths. -/
theorem map_node_listed {order : List Nat} (hvisits : t.visits = order.map t.atDepth)
    (a : AnnotatedTree) (only : Option Membership) :
    (a.listed t only).map (·.node)
      = order.filterMap fun id => (a.node? id).filter (keeps only) := by
  rw [listed, hvisits, List.filterMap_map, List.map_filterMap]
  refine List.filterMap_congr fun id _ => ?_
  simp only [Function.comp_apply, LiveTree.atDepth, Option.map_map]
  exact Option.map_id'

theorem depth_of_mem_listed {order : List Nat} (hvisits : t.visits = order.map t.atDepth)
    {only : Option Membership} {e : ListedNode} (he : e ∈ a.listed t only) :
    e.depth = (t.ancestors e.node.id).length := by
  rw [listed, hvisits, List.filterMap_map] at he
  obtain ⟨id, -, he⟩ := List.mem_filterMap.1 he
  obtain ⟨n, hn, rfl⟩ := Option.map_eq_some_iff.1 he
  rw [id_eq_of_node? (Option.filter_eq_some_iff.1 hn).1]

theorem node?_of_mem_listed (a : AnnotatedTree) {only : Option Membership} {e : ListedNode}
    (he : e ∈ a.listed t only) : a.node? e.node.id = some e.node := by
  obtain ⟨⟨id, depth⟩, -, he⟩ := List.mem_filterMap.1 he
  obtain ⟨n, hn, rfl⟩ := Option.map_eq_some_iff.1 he
  obtain ⟨hn, -⟩ := Option.filter_eq_some_iff.1 hn
  rw [id_eq_of_node? hn, hn]

/-- The numbers of the nodes that are kept of some that are looked up. -/
theorem map_id_filterMap (a : AnnotatedTree) (only : Option Membership) (order : List Nat) :
    (order.filterMap fun id => (a.node? id).filter (keeps only)).map (·.id)
      = order.filter fun id => (a.node? id).any (keeps only) := by
  rw [List.map_filterMap, ← List.filterMap_eq_filter]
  refine List.filterMap_congr fun id _ => ?_
  rw [Option.guard]
  rcases hn : a.node? id with _ | n
  · rfl
  · rw [Option.filter_some, Option.any_some]
    split_ifs
    · rw [Option.map_some, id_eq_of_node? hn]
    · rfl

/-- How an annotated tree is listed of which the objects of one membership are kept, or all. As text
each has a line, in the order of the walk and indented by two blanks for each ancestor, and the
counts of the whole tree stand at the end. As JSON each has an entry, by number. The objects are the
same, each once. -/
structure Listed (a : AnnotatedTree) (t : LiveTree) (only : Option Membership) : Prop where
  walk : t.forest.Walk t.roots t.forest.preorder ∧
    ∀ fuel, t.size ≤ fuel → t.visitsWithin fuel (t.roots.map (·, 0)) = t.visits
  order : (a.listed t only).map (·.node.id)
    = t.forest.preorder.filter fun id => (a.membership? id).any fun m => only.all (· == m)
  once : ((a.listed t only).map (·.node.id)).Nodup
  nodes : ∀ e ∈ a.listed t only, a.node? e.node.id = some e.node
  text : ∀ rules, ∃ shown, List.Forall₂ (fun e line =>
      e.node.ShowsIn (2 * (t.ancestors e.node.id).length) rules line) (a.listed t only) shown ∧
    a.lines t only rules = shown ++ a.findingLines ++
      ["", s!"{(a.listed t (some .included)).length} included, " ++
        s!"{(a.listed t (some .excluded)).length} excluded, " ++
        s!"{(a.listed t (some .undetermined)).length} undetermined"]
  json : ∃ nodes entries, (a.toJson only).field? "nodes" = some (.list entries) ∧
    List.Forall₂ AnnotatedNode.Enters nodes entries ∧ (nodes.map (·.id)).Pairwise (· < ·) ∧
    ((a.listed t only).map (·.node)).Perm nodes
  counts : (a.listed t (some .included)).length + (a.listed t (some .excluded)).length +
      (a.listed t (some .undetermined)).length = t.size ∧
    ∀ m, a.count m = (a.listed t (some m)).length

end AnnotatedTree

/-! ## Reconciled trees -/

namespace LiveTree

open AnnotatedTree (keeps)

variable {t : LiveTree}

/-- What is kept of a reconciled tree, looked up by number. -/
theorem kept_reconcile (hf : t.forest.Linked)
    (hfull : ∀ id, id < t.size → t.forest.contains id = true) (s : Sieve) (shapes : List Shape)
    (only : Option Membership) :
    (t.reconcile s shapes).kept only
      = t.ids.filterMap fun id => ((t.reconcile s shapes).node? id).filter (keeps only) := by
  have hnodes : (t.reconcile s shapes).nodes = t.ids.filterMap (t.reconcile s shapes).node? := by
    have hnode : (t.reconcile s shapes).node? = t.annotation? s shapes :=
      funext (node?_reconcile hf hfull s shapes)
    rw [hnode, reconcile_eq hf]
  rw [AnnotatedTree.kept, hnodes, List.filter_filterMap]

/-- Both listings of a reconciled tree list the same objects, whatever else was found. -/
theorem Grown.listed_alike (ht : t.Grown) (s : Sieve) (shapes : List Shape)
    (findings : List Finding) (only : Option Membership) :
    { t.reconcile s shapes with findings }.Listed t only := by
  obtain ⟨hlinked, hfull⟩ := ht.linked_and_complete
  have hpreorder : t.forest.preorder.Perm t.ids := Forest.perm_preorder hlinked
  set a : AnnotatedTree := { t.reconcile s shapes with findings }
  have hkept : ∀ only, a.kept only
      = t.ids.filterMap fun id => (a.node? id).filter (keeps only) :=
    kept_reconcile hlinked hfull s shapes
  have hlisted := fun only => AnnotatedTree.map_node_listed (visits_eq hlinked) a only
  have hperm : ∀ only, ((a.listed t only).map (·.node)).Perm (a.kept only) := by
    intro only
    rw [hlisted, hkept]
    exact hpreorder.filterMap _
  have hcount : ∀ m, a.count m = (a.listed t (some m)).length := by
    intro m
    have hkeeps : a.withMembership m = a.kept (some m) :=
      List.filter_congr fun n _ => Bool.beq_comm
    rw [AnnotatedTree.count, hkeeps, ← (hperm (some m)).length_eq, List.length_map]
  have horder : (a.listed t only).map (·.node.id)
      = t.forest.preorder.filter fun id => (a.membership? id).any fun m => only.all (· == m) := by
    simp only [a.any_membership?_eq only]
    rw [← a.map_id_filterMap, ← hlisted, List.map_map]
    rfl
  constructor
  case walk =>
    refine ⟨Forest.walk_preorder hlinked, fun fuel hfuel => ?_⟩
    rw [visitsWithin_roots hlinked hfuel, visits_eq hlinked]
  case order => exact horder
  case once =>
    rw [horder]
    exact (hpreorder.nodup_iff.2 t.forest.ids_nodup).filter _
  case nodes => exact fun e he => a.node?_of_mem_listed he
  case text =>
    refine fun rules => ⟨(a.listed t only).map (·.line rules), ?_, ?_⟩
    · rw [List.forall₂_map_right_iff, List.forall₂_same]
      intro e he
      rw [← AnnotatedTree.depth_of_mem_listed (visits_eq hlinked) he]
      exact e.showsIn_line rules
    · rw [AnnotatedTree.lines, AnnotatedTree.countLine]
      simp only [hcount, String.append_assoc]
  case json =>
    refine ⟨a.kept only, (a.kept only).map AnnotatedNode.toJson, rfl, ?_, ?_, hperm only⟩
    · rw [List.forall₂_map_right_iff, List.forall₂_same]
      exact fun n _ => n.enters_toJson
    · rw [hkept, a.map_id_filterMap, ids_eq_range hfull]
      exact List.pairwise_lt_range.filter _
  case counts =>
    refine ⟨?_, hcount⟩
    rw [← hcount, ← hcount, ← hcount, a.count_add_count_add_count]
    exact (ht.covered s shapes).size

/-- A table with a column beside a table without a name, and a column that was found before them at
the top. -/
def strayOrders : LiveTree :=
  ((((empty.plant none .catalog (some "SALES")).plant none .column (some "ID")).plant
    (some 0) .table none).plant (some 0) .table (some "ORDERS")).plant
    (some 3) .column (some "NOTE")

/-- The rules that exclude the table. -/
def withoutOrders : RuleTree := .ofDocument { rules := { excludeTables := ["ORDERS"] } }

/-- The walk goes below the excluded table, and comes to the column at the top last. -/
theorem listed_alike_strayOrders :
    let a := strayOrders.reconcile withoutOrders.compile.sieve withoutOrders.shapes
    strayOrders.Grown ∧ a.Listed strayOrders (some .included) ∧
      a.Listed strayOrders (some .undetermined) ∧
      (a.listed strayOrders (some .included)).map (·.line none)
        = ["+ catalog SALES", "    + column NOTE"] ∧
      (a.listed strayOrders (some .undetermined)).map (·.line none)
        = ["  ? table <unnamed>", "? column ID"] ∧
      (a.kept (some .undetermined)).map (·.id) = [1, 2] := by
  have ht : strayOrders.Grown :=
    ((((Grown.empty.plant rfl _ _).plant rfl _ _).plant rfl _ _).plant rfl _ _).plant rfl _ _
  refine ⟨ht, ht.listed_alike _ _ _ _, ht.listed_alike _ _ _ _, ?_, ?_, ?_⟩ <;> decide +kernel

end LiveTree

end SchemaSieve
