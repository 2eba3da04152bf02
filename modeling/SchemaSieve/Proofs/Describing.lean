import Mathlib.Tactic
import SchemaSieve.Proofs.Erasure
import SchemaSieve.Proofs.Shapes

/-!
# Which rules describe an object

A rule describes an object if it fits the object and the labelled nodes above it can be assigned, in
order, to names above the object that they fit (`describing_exact`). The scan takes for each node
the first name it fits. No later node is worse off for that: a chain that fits some names fits them
with one more in front (`fitsWithin_cons`), so the scan finds an assignment whenever there is one
(`fitsWithin_iff`).
-/

namespace SchemaSieve

/-! ## Traversals -/

theorem mapM_eq_some_iff {α β : Type} {g : α → Option β} :
    ∀ {xs : List α} {ys : List β},
      xs.mapM g = some ys ↔ List.Forall₂ (fun x y => g x = some y) xs ys
  | [], ys => by simp [eq_comm]
  | x :: xs, ys => by
    rw [List.mapM_cons, List.forall₂_cons_left_iff]
    simp only [← mapM_eq_some_iff, Option.bind_eq_bind, Option.bind_eq_some_iff, Option.pure_def,
      Option.some.injEq, eq_comm (b := ys)]
    constructor
    · rintro ⟨y, hy, zs, hzs, rfl⟩
      exact ⟨y, zs, hy, hzs, rfl⟩
    · rintro ⟨y, zs, hy, hzs, rfl⟩
      exact ⟨y, hy, zs, hzs, rfl⟩

theorem mapM_filter_filterMap {α β γ : Type} (read : α → Option β) (keep : β → Bool)
    (g : β → Option γ) :
    ∀ xs : List α, ((xs.filterMap read).filter keep).mapM g
      = (xs.filter fun x => (read x).any keep).mapM fun x => (read x).bind g
  | [] => rfl
  | x :: xs => by
    have ih := mapM_filter_filterMap read keep g xs
    rcases hx : read x with _ | y
    · rw [List.filterMap_cons_none hx, List.filter_cons_of_neg (by simp [hx]), ih]
    · rw [List.filterMap_cons_some hx, List.filter_cons, List.filter_cons]
      simp only [hx, Option.any_some]
      split_ifs
      · rw [List.mapM_cons, List.mapM_cons, ih, hx, Option.bind_some]
      · exact ih

/-! ## Assignments -/

section

variable {α β : Type} {R : α → β → Prop}

/-- A list goes into another, in order and entry by entry, exactly if its positions can be assigned
in order to positions of the other. -/
theorem sublistForall₂_iff_exists_strictMono {xs : List α} {ys : List β} :
    List.SublistForall₂ R xs ys ↔
      ∃ f : Fin xs.length → Fin ys.length, StrictMono f ∧ ∀ i, R xs[i] ys[f i] := by
  rw [List.sublistForall₂_iff]
  constructor
  · rintro ⟨zs, hR, hsub⟩
    obtain ⟨g, hg⟩ := List.sublist_iff_exists_fin_orderEmbedding_get_eq.1 hsub
    obtain ⟨hlength, hR⟩ := List.forall₂_iff_get.1 hR
    refine ⟨fun i => g (i.cast hlength), fun i j hij => g.strictMono hij, fun i => ?_⟩
    have hentry : zs.get (i.cast hlength) = ys[g (i.cast hlength)] := hg _
    rw [← hentry]
    exact hR i i.isLt (hlength ▸ i.isLt)
  · rintro ⟨f, hf, hR⟩
    refine ⟨List.ofFn fun i => ys[f i], List.forall₂_iff_get.2 ⟨by simp, fun i hi _ => ?_⟩, ?_⟩
    · simpa using hR ⟨i, hi⟩
    · have hlength : (List.ofFn fun i => ys[f i]).length = xs.length := by simp
      refine List.sublist_iff_exists_fin_orderEmbedding_get_eq.2
        ⟨.ofStrictMono (fun i => f (i.cast hlength)) fun i j hij => hf hij, fun i => ?_⟩
      rw [List.get_eq_getElem, List.getElem_ofFn]
      rfl

end

variable {rs : List RuleLink} {ls : List LiveLink}

/-- The scan finds the links of a chain in order wherever they can be found in order. -/
theorem fitsWithin_iff :
    fitsWithin rs ls = true ↔ List.SublistForall₂ (fun r l => r.describes l = true) rs ls := by
  constructor
  · intro h
    induction ls generalizing rs with
    | nil =>
      rcases rs with _ | ⟨r, rs⟩
      · exact .nil
      · cases h
    | cons l ls ih =>
      rcases rs with _ | ⟨r, rs⟩
      · exact .nil
      · rw [fitsWithin_cons_cons] at h
        split_ifs at h with hr
        · exact .cons hr (ih h)
        · exact .cons_right (ih h)
  · intro h
    induction h with
    | nil => exact fitsWithin_nil _
    | cons hr _ ih => rwa [fitsWithin_cons_cons, if_pos hr]
    | cons_right _ ih => exact fitsWithin_cons _ ih

/-! ## Nodes that fit -/

/-- Whether a node is about the kind of an object and its label fits the name: the name of a
namespace has to be the same, the pattern of a rule to be valid and to accept it. -/
def RuleNode.Fits (node : RuleNode) (l : LiveLink) : Prop :=
  node.family? = some l.kind ∧
    (node.containerName? = some l.name ∨
      ∃ source p, node.pattern? = some source ∧ validPattern? source = some p ∧
        p.accepts l.name = true)

theorem RuleNode.fits_iff {node : RuleNode} {l : LiveLink} :
    node.Fits l ↔ ∃ r, RuleLink.ofNode? node = some r ∧ r.describes l = true := by
  rcases node with _ | name | name | ⟨subject, polarity, source⟩
  · simp [Fits, family?, RuleLink.ofNode?]
  · simp [Fits, family?, containerName?, pattern?, RuleLink.ofNode?, RuleLink.describes,
      Label.accepts, and_comm, and_assoc]
  · simp [Fits, family?, containerName?, pattern?, RuleLink.ofNode?, RuleLink.describes,
      Label.accepts, and_comm, and_assoc]
  · simp only [Fits, family?, containerName?, pattern?, RuleLink.ofNode?, reduceCtorEq, false_or,
      Option.some.injEq, Option.map_eq_some_iff]
    constructor
    · rintro ⟨hkind, _, p, rfl, hp, haccepts⟩
      exact ⟨_, ⟨p, hp, rfl⟩, by simp [RuleLink.describes, Label.accepts, hkind, haccepts]⟩
    · rintro ⟨_, ⟨p, hp, rfl⟩, hdescribes⟩
      rw [RuleLink.describes, Bool.and_eq_true, beq_iff_eq] at hdescribes
      exact ⟨hdescribes.1, source, p, rfl, hp, hdescribes.2⟩

/-- A labelled node asks nothing exactly if it is a rule with a blank or invalid pattern. -/
theorem RuleNode.isSome_ofNode?_iff {node : RuleNode} (h : node.label?.isSome = true) :
    (RuleLink.ofNode? node).isSome = true ↔ node.isSound = true := by
  rcases node with _ | name | name | ⟨subject, polarity, source⟩
  · cases h
  · simpa [isSound, pattern?, RuleLink.ofNode?, label?, containerName?] using h
  · simpa [isSound, pattern?, RuleLink.ofNode?, label?, containerName?] using h
  · simp [isSound, pattern?, RuleLink.ofNode?]

theorem RuleNode.isSound_of_label?_eq_none {node : RuleNode} (h : node.label? = none) :
    node.isSound = true := by
  rcases node with _ | name | name | ⟨subject, polarity, source⟩
  · rfl
  · rfl
  · rfl
  · cases h

namespace RuleTree

variable {t : RuleTree} {id : Nat}

/-- The nodes above a node that carry a label, outermost first. The root and namespaces without a
name carry none. -/
def labelledAbove (t : RuleTree) (id : Nat) : List Nat :=
  (t.ancestors id).reverse.filter fun a => (t.node? a).any (·.label?.isSome)

/-- A node has a shape if it asks something itself and so does each labelled node above it. -/
theorem ofNode?_eq_some_iff {s : Shape} :
    Shape.ofNode? t id = some s ↔
      s.id = id ∧ (t.node? id).bind RuleLink.ofNode? = some s.link ∧
        List.Forall₂ (fun a r => (t.node? a).bind RuleLink.ofNode? = some r) (t.labelledAbove id)
          s.chain := by
  obtain ⟨i, link, chain⟩ := s
  simp only [Shape.ofNode?, mapM_filter_filterMap, labelledAbove, ← mapM_eq_some_iff]
  simp only [Option.bind_eq_bind, Option.bind_eq_some_iff, Option.pure_def, Option.some.injEq,
    Shape.mk.injEq]
  constructor
  · rintro ⟨link', hlink, chain', hchain, rfl, rfl, rfl⟩
    exact ⟨rfl, hlink, hchain⟩
  · rintro ⟨rfl, hlink, hchain⟩
    exact ⟨link, hlink, chain, hchain, rfl, rfl, rfl⟩

theorem mem_describing_iff {object : LiveLink} {above : List LiveLink} :
    id ∈ describing t.shapes object above ↔
      ∃ s, Shape.ofNode? t id = some s ∧ s.describes object above = true := by
  simp only [describing, shapes, List.mem_map, List.mem_filter, List.mem_filterMap]
  constructor
  · rintro ⟨s, ⟨⟨i, -, hs⟩, hdescribes⟩, rfl⟩
    obtain ⟨rfl, -⟩ := ofNode?_eq_some_iff.1 hs
    exact ⟨s, hs, hdescribes⟩
  · rintro ⟨s, hs, hdescribes⟩
    obtain ⟨hid, hlink, -⟩ := ofNode?_eq_some_iff.1 hs
    obtain ⟨node, hn, -⟩ := Option.bind_eq_some_iff.1 hlink
    exact ⟨s, ⟨⟨id, Forest.mem_ids.2 (Forest.contains_of_value? hn), hs⟩, hdescribes⟩, hid⟩

/-- Labelled nodes all ask something if the rules among them are sound, and the names that go with
what they ask are those that they fit. -/
theorem exists_chain_iff {ids : List Nat} {above : List LiveLink}
    (hlabelled : ∀ a ∈ ids, ∃ node, t.node? a = some node ∧ node.label?.isSome = true) :
    (∃ chain, List.Forall₂ (fun a r => (t.node? a).bind RuleLink.ofNode? = some r) ids chain ∧
        fitsWithin chain above = true) ↔
      (∀ a ∈ ids, ∀ node, t.node? a = some node → node.isSound = true) ∧
        ∃ f : Fin ids.length → Fin above.length, StrictMono f ∧
          ∀ i, ∃ node, t.node? ids[i] = some node ∧ node.Fits above[f i] := by
  simp only [fitsWithin_iff, sublistForall₂_iff_exists_strictMono]
  constructor
  · rintro ⟨chain, hchain, f, hf, hdescribes⟩
    obtain ⟨hlength, hasks⟩ := List.forall₂_iff_get.1 hchain
    refine ⟨fun a ha node hn => ?_, fun i => f (i.cast hlength), fun i j hij => hf hij, fun i => ?_⟩
    · obtain ⟨node', hn', hlabel⟩ := hlabelled a ha
      obtain rfl := Option.some.inj (hn'.symm.trans hn)
      obtain ⟨i, hi, rfl⟩ := List.mem_iff_getElem.1 ha
      have hask := hasks i hi (hlength ▸ hi)
      rw [List.get_eq_getElem, hn', Option.bind_some] at hask
      exact (RuleNode.isSome_ofNode?_iff hlabel).1 (Option.isSome_of_eq_some hask)
    · have hask := hasks i i.isLt (hlength ▸ i.isLt)
      obtain ⟨node, hn, hask⟩ := Option.bind_eq_some_iff.1 hask
      exact ⟨node, hn, RuleNode.fits_iff.2 ⟨_, hask, hdescribes (i.cast hlength)⟩⟩
  · rintro ⟨-, f, hf, hfits⟩
    simp only [RuleNode.fits_iff] at hfits
    choose node hn r hask hdescribes using hfits
    have hlength : (List.ofFn r).length = ids.length := List.length_ofFn
    refine ⟨List.ofFn r, List.forall₂_iff_get.2 ⟨hlength.symm, fun i hi _ => ?_⟩,
      fun i => f (i.cast hlength), fun i j hij => hf hij, fun i => ?_⟩
    · have hni : t.node? ids[i] = some (node ⟨i, hi⟩) := hn ⟨i, hi⟩
      rw [List.get_eq_getElem, hni, Option.bind_some, hask, List.get_eq_getElem,
        List.getElem_ofFn]
    · have hri : (List.ofFn r)[i] = r (i.cast hlength) := List.getElem_ofFn _
      rw [hri]
      exact hdescribes (i.cast hlength)

/-- Which nodes describe an object below some names: those that fit it, below sound rules only, and
whose labelled nodes above can be assigned in order to names that they fit. They are given in the
order of their numbers. -/
theorem describing_exact (t : RuleTree) (object : LiveLink) (above : List LiveLink) :
    (describing t.shapes object above).Pairwise (· < ·) ∧
      ∀ id, id ∈ describing t.shapes object above ↔
        (∃ node, t.node? id = some node ∧ node.Fits object) ∧
        (∀ a ∈ t.ancestors id, ∀ node, t.node? a = some node → node.isSound = true) ∧
        ∃ f : Fin (t.labelledAbove id).length → Fin above.length, StrictMono f ∧
          ∀ i, ∃ node, t.node? (t.labelledAbove id)[i] = some node ∧ node.Fits above[f i] := by
  refine ⟨?_, fun id => ?_⟩
  · refine List.pairwise_map.2 (List.Pairwise.filter _ (List.pairwise_filterMap.2 ?_))
    refine (List.pairwise_lt_range.filter _).imp fun {a b} hab s hs u hu => ?_
    rw [(ofNode?_eq_some_iff.1 hs).1, (ofNode?_eq_some_iff.1 hu).1]
    exact hab
  · have hlabelled : ∀ a ∈ t.labelledAbove id,
        ∃ node, t.node? a = some node ∧ node.label?.isSome = true := fun a ha =>
      (Option.any_eq_true _ _).1 (List.mem_filter.1 ha).2
    -- Only a labelled node can be unsound, so nothing else above has to be looked at.
    have hsound : (∀ a ∈ t.ancestors id, ∀ node, t.node? a = some node → node.isSound = true) ↔
        ∀ a ∈ t.labelledAbove id, ∀ node, t.node? a = some node → node.isSound = true := by
      refine ⟨fun h a ha => h a (List.mem_reverse.1 (List.mem_filter.1 ha).1),
        fun h a ha node hn => ?_⟩
      rcases hlabel : node.label? with _ | label
      · exact RuleNode.isSound_of_label?_eq_none hlabel
      · refine h a (List.mem_filter.2 ⟨List.mem_reverse.2 ha, ?_⟩) node hn
        simp [hn, hlabel]
    rw [hsound, ← exists_chain_iff hlabelled, mem_describing_iff]
    simp only [ofNode?_eq_some_iff, Shape.describes, Bool.and_eq_true, RuleNode.fits_iff]
    constructor
    · rintro ⟨⟨_, link, chain⟩, ⟨rfl, hlink, hchain⟩, hdescribes, hfits⟩
      obtain ⟨node, hn, hlink⟩ := Option.bind_eq_some_iff.1 hlink
      exact ⟨⟨node, hn, link, hlink, hdescribes⟩, chain, hchain, hfits⟩
    · rintro ⟨⟨node, hn, link, hlink, hdescribes⟩, chain, hchain, hfits⟩
      exact ⟨⟨id, link, chain⟩, ⟨rfl, Option.bind_eq_some_iff.2 ⟨node, hn, hlink⟩, hchain⟩,
        hdescribes, hfits⟩

end RuleTree

end SchemaSieve
