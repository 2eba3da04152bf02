import Mathlib.Tactic
import SchemaSieve.Proofs.Agreement
import SchemaSieve.Proofs.Chains
import SchemaSieve.Proofs.Decisions

/-!
# Rules that speak about an object describe it

Which rules have a say about an object is settled by the keys under which its catalog and its schema
are looked up (`SpeaksAbout`); which rules are reported with it, by the names above the rule and the
names above the object. A container that applies asks for nothing above the object but the names
under which it is looked up (`Applies.askedAlong_eq`), so every rule that has a say is reported
(`SpeaksAbout.mem_describing`).
-/

namespace SchemaSieve

/-! ## Fitting -/

section

variable {r : RuleLink} {rs rs' : List RuleLink} {l : LiveLink} {ls ls' : List LiveLink}

@[simp] theorem fitsWithin_nil (ls : List LiveLink) : fitsWithin [] ls = true := by
  cases ls <;> rfl

theorem fitsWithin_cons_cons :
    fitsWithin (r :: rs) (l :: ls)
      = if r.describes l then fitsWithin rs ls else fitsWithin (r :: rs) ls := by
  rw [fitsWithin]

/-- A live chain may grow at its front if rule chains may shrink at theirs. -/
theorem fitsWithin_cons_of_tail
    (htail : ∀ {r rs}, fitsWithin (r :: rs) ls = true → fitsWithin rs ls = true) (l : LiveLink)
    (h : fitsWithin rs ls = true) : fitsWithin rs (l :: ls) = true := by
  rcases rs with _ | ⟨r, rs⟩
  · rfl
  · rw [fitsWithin_cons_cons]
    split_ifs
    · exact htail h
    · exact h

theorem fitsWithin_tail (h : fitsWithin (r :: rs) ls = true) : fitsWithin rs ls = true := by
  induction ls generalizing r rs with
  | nil => cases h
  | cons l ls ih =>
    rw [fitsWithin_cons_cons] at h
    split_ifs at h
    · exact fitsWithin_cons_of_tail ih l h
    · exact fitsWithin_cons_of_tail ih l (ih h)

theorem fitsWithin_cons (l : LiveLink) (h : fitsWithin rs ls = true) :
    fitsWithin rs (l :: ls) = true :=
  fitsWithin_cons_of_tail fitsWithin_tail l h

/-- Chains that fit one after the other fit together. -/
theorem fitsWithin_append (h : fitsWithin rs ls = true) (h' : fitsWithin rs' ls' = true) :
    fitsWithin (rs ++ rs') (ls ++ ls') = true := by
  induction ls generalizing rs with
  | nil =>
    rcases rs with _ | ⟨r, rs⟩
    · exact h'
    · cases h
  | cons l ls ih =>
    rcases rs with _ | ⟨r, rs⟩
    · exact fitsWithin_cons l (ih (fitsWithin_nil ls))
    · rw [fitsWithin_cons_cons] at h
      rw [List.cons_append, List.cons_append, fitsWithin_cons_cons]
      split_ifs at h ⊢
      · exact ih h
      · exact ih h

end

/-! ## What chains ask -/

/-- What the labelled nodes of a chain ask, outermost first, if all of them can ask. -/
def askedAlong (c : List RuleNode) : Option (List RuleLink) :=
  (c.filter (·.label?.isSome)).reverse.mapM RuleLink.ofNode?

theorem askedAlong_cons_of_label?_eq_none {node : RuleNode} (h : node.label? = none)
    (c : List RuleNode) : askedAlong (node :: c) = askedAlong c := by
  simp [askedAlong, h]

theorem askedAlong_cons_of_ofNode? {node : RuleNode} {link : RuleLink}
    (h : RuleLink.ofNode? node = some link) {c : List RuleNode} {links : List RuleLink}
    (hc : askedAlong c = some links) : askedAlong (node :: c) = some (links ++ [link]) := by
  have hlabel : node.label?.isSome = true := by
    rcases node with _ | name | name | ⟨s, p, source⟩
    · cases h
    · obtain ⟨n, hn, -⟩ := Option.map_eq_some_iff.1 h
      simp [RuleNode.label?, RuleNode.containerName?, hn]
    · obtain ⟨n, hn, -⟩ := Option.map_eq_some_iff.1 h
      simp [RuleNode.label?, RuleNode.containerName?, hn]
    · rfl
  rw [askedAlong] at hc ⊢
  rw [List.filter_cons_of_pos (by simpa using hlabel), List.reverse_cons, List.mapM_append, hc]
  simp [h]

/-- What a key asks of the names above an object. -/
def linksOfKey (kind : ObjectKind) (key : Option String) : List RuleLink :=
  (key.map fun n => ⟨kind, .literal n⟩).toList

theorem askedAlong_catalog (name : Option String) {c : List RuleNode} {links : List RuleLink}
    (hc : askedAlong c = some links) :
    askedAlong (.catalog name :: c) = some (links ++ linksOfKey .catalog (Text.nonBlank name)) := by
  rcases hn : Text.nonBlank name with _ | n
  · rw [askedAlong_cons_of_label?_eq_none (by exact hn), hc]
    simp [linksOfKey]
  · exact askedAlong_cons_of_ofNode? (by simp [RuleLink.ofNode?, hn]) hc

theorem askedAlong_schema (name : Option String) {c : List RuleNode} {links : List RuleLink}
    (hc : askedAlong c = some links) :
    askedAlong (.schema name :: c) = some (links ++ linksOfKey .schema (Text.nonBlank name)) := by
  rcases hn : Text.nonBlank name with _ | n
  · rw [askedAlong_cons_of_label?_eq_none (by exact hn), hc]
    simp [linksOfKey]
  · exact askedAlong_cons_of_ofNode? (by simp [RuleLink.ofNode?, hn]) hc

/-- A name has what the key asks under which it is looked up. -/
theorem fitsWithin_linksOfKey {declared : Option String → Prop} {name key : Option String}
    (h : Resolves declared (Text.nonBlank name) key) (kind : ObjectKind) :
    fitsWithin (linksOfKey kind key) (linksOfName kind name) = true := by
  unfold linksOfName
  generalize Text.nonBlank name = present at h
  cases h with
  | named _ => simp [linksOfKey, fitsWithin, RuleLink.describes, Label.accepts]
  | wildcard _ _ => exact fitsWithin_nil _

namespace RuleTree

variable {t : RuleTree} {catalogKey schemaKey : Option String}

/-- The containers that apply under keys ask at most for the keys, the catalog first. -/
theorem Applies.askedAlong_eq (ht : t.WellFormed) {place : Nat}
    (h : t.Applies catalogKey schemaKey place) :
    ∃ catalog schema, askedAlong (t.chain place) = some (catalog ++ schema) ∧
      (catalog = [] ∨ catalog = linksOfKey .catalog catalogKey) ∧
        (schema = [] ∨ schema = linksOfKey .schema schemaKey) := by
  have hroot : askedAlong (t.chain rootId) = some [] := by
    rw [ht.chain_root]
    rfl
  have hcatalog : ∀ {c : Nat}, t.LegalCatalog catalogKey c →
      askedAlong (t.chain c) = some (linksOfKey .catalog catalogKey) := by
    intro c hc
    have hp := hc.parent?_eq ht
    obtain ⟨-, name, hn, rfl⟩ := hc
    rw [ht.chain_child hp hn, askedAlong_catalog name hroot, List.nil_append]
  rcases h with ⟨-, ⟨name, hn, rfl⟩, c, hp, hc⟩ | hc | rfl
  · rw [ht.chain_child hp hn]
    rcases hc with rfl | hc
    · exact ⟨[], _, askedAlong_schema name hroot, .inl rfl, .inr rfl⟩
    · exact ⟨_, _, askedAlong_schema name (hcatalog hc), .inr rfl, .inr rfl⟩
  · exact ⟨_, [], by rw [hcatalog hc, List.append_nil], .inr rfl, .inl rfl⟩
  · exact ⟨[], [], hroot, .inl rfl, .inl rfl⟩

/-- What stands in a container that applies asks for nothing that is not above the object. -/
theorem Applies.fitsWithin (ht : t.WellFormed) {place : Nat} {o : DiscoveredObject}
    (h : t.Applies catalogKey schemaKey place)
    (hscope : t.Scoped (Text.nonBlank o.catalog) (Text.nonBlank o.schema) catalogKey schemaKey) :
    ∃ links, askedAlong (t.chain place) = some links ∧
      fitsWithin links (linksOfName .catalog o.catalog ++ linksOfName .schema o.schema) = true := by
  obtain ⟨catalog, schema, hasked, hcatalog, hschema⟩ := h.askedAlong_eq ht
  refine ⟨_, hasked, fitsWithin_append ?_ ?_⟩
  · rcases hcatalog with rfl | rfl
    · exact fitsWithin_nil _
    · exact fitsWithin_linksOfKey hscope.1 .catalog
  · rcases hschema with rfl | rfl
    · exact fitsWithin_nil _
    · exact fitsWithin_linksOfKey hscope.2 .schema

/-! ## Rules that have a say -/

/-- Whether a rule has a say about an object whose catalog and schema are looked up under keys: it
stands directly in a container that applies, or is about columns and stands below an include of the
table. Its pattern is valid and accepts the name. -/
inductive SpeaksAbout (t : RuleTree) (catalogKey schemaKey : Option String)
    (o : DiscoveredObject) : Nat → Prop where
  | direct {place id : Nat} {subject : RuleSubject} {polarity : Polarity} {p : NamePattern}
      {name : String} (hplace : t.Applies catalogKey schemaKey place)
      (hrule : (id, p) ∈ t.validRules subject polarity place) (hkind : o.kind = subject.kind)
      (hname : o.name = some name) (haccepts : p.accepts name = true) :
      SpeaksAbout t catalogKey schemaKey o id
  | below {place holder id : Nat} {polarity : Polarity} {p q : NamePattern} {table name : String}
      (hplace : t.Applies catalogKey schemaKey place)
      (hinclude : (holder, q) ∈ t.validRules .table .includes place)
      (htable : o.table = some table) (hinside : q.accepts table = true)
      (hrule : (id, p) ∈ t.validRules .column polarity holder) (hkind : o.kind = .column)
      (hname : o.name = some name) (haccepts : p.accepts name = true) :
      SpeaksAbout t catalogKey schemaKey o id

/-- The shape of a node below a place whose chain can ask. -/
theorem ofNode?_eq_some (ht : t.WellFormed) {place id : Nat} {node : RuleNode} {link : RuleLink}
    {links : List RuleLink} (hp : t.parent? id = some place) (hn : t.node? id = some node)
    (hlink : RuleLink.ofNode? node = some link) (hlinks : askedAlong (t.chain place) = some links) :
    Shape.ofNode? t id = some ⟨id, link, links⟩ := by
  have habove : (t.ancestors id).filterMap t.node? = t.chain place := by
    have hchain := Forest.chain_parent? ht.links id
    rw [show t.forest.parent? id = some place from hp] at hchain
    exact hchain.symm
  rw [askedAlong] at hlinks
  simp [Shape.ofNode?, hn, hlink, habove, hlinks]

/-- What is described is reported. -/
theorem mem_describing_shapes {id : Nat} {link : RuleLink} {links : List RuleLink} {l : LiveLink}
    {above : List LiveLink} (hshape : Shape.ofNode? t id = some ⟨id, link, links⟩)
    (hlink : link.describes l = true) (hlinks : fitsWithin links above = true) :
    id ∈ describing t.shapes l above := by
  have hid : id ∈ t.ids := by
    rw [ids, Forest.mem_ids]
    rcases hn : t.node? id with _ | node
    · simp [Shape.ofNode?, hn] at hshape
    · exact Forest.contains_of_value? hn
  refine List.mem_map.2 ⟨⟨id, link, links⟩, List.mem_filter.2 ⟨?_, ?_⟩, rfl⟩
  · exact List.mem_filterMap.2 ⟨id, hid, hshape⟩
  · rw [Shape.describes, hlink, hlinks]
    rfl

theorem SpeaksAbout.mem_describing (ht : t.WellFormed) {o : DiscoveredObject} {name : String}
    (hname : Text.nonBlank o.name = some name)
    (htable : o.kind = .column → Text.nonBlank o.table ≠ none)
    (hscope : t.Scoped (Text.nonBlank o.catalog) (Text.nonBlank o.schema) catalogKey schemaKey)
    {id : Nat} (h : t.SpeaksAbout catalogKey schemaKey o id) :
    id ∈ describing t.shapes ⟨o.kind, name⟩ o.linksAbove := by
  have hasks : ∀ {subject : RuleSubject} {polarity : Polarity} {source : String} {p : NamePattern},
      validPattern? source = some p →
        RuleLink.ofNode? (.rule subject polarity source) = some ⟨subject.kind, .pattern p⟩ := by
    intro subject polarity source p hv
    simp [RuleLink.ofNode?, hv]
  have hpresent : ∀ {f : Option String} {a b : String}, Text.nonBlank f = some a → f = some b →
      a = b := by
    rintro f a b ha rfl
    exact (Option.some.inj (Text.nonBlank_eq_some_iff.1 ha).1).symm
  cases h with
  | @direct place _ subject polarity p n hplace hrule hkind hname' haccepts =>
    obtain ⟨source, hp, hn, hv⟩ := (mem_validRules ht).1 hrule
    obtain rfl := hpresent hname hname'
    obtain ⟨links, hlinks, hfits⟩ := hplace.fitsWithin ht hscope
    have hleaf : o.kind.isContainer = false := by
      rw [hkind]
      cases subject <;> rfl
    have hne : o.kind ≠ .catalog := by
      rintro hk
      rw [hk] at hleaf
      cases hleaf
    refine mem_describing_shapes (ofNode?_eq_some ht hp hn (hasks hv) hlinks) ?_ ?_
    · simp [RuleLink.describes, Label.accepts, hkind, haccepts]
    · rw [o.linksAbove_eq_linksOfName, if_neg hne, hleaf, ← List.append_nil links]
      exact fitsWithin_append hfits (fitsWithin_nil _)
  | @below place holder _ polarity p q table n hplace hinclude htable' hinside hrule hkind hname'
      haccepts =>
    obtain ⟨source, hp, hn, hv⟩ := (mem_validRules ht).1 hrule
    obtain ⟨source', hp', hn', hv'⟩ := (mem_validRules ht).1 hinclude
    obtain rfl := hpresent hname hname'
    obtain ⟨table', htable⟩ := Option.ne_none_iff_exists'.1 (htable hkind)
    obtain rfl := hpresent htable htable'
    obtain ⟨links, hlinks, hfits⟩ := hplace.fitsWithin ht hscope
    have hbelow : askedAlong (t.chain holder) = some (links ++ [⟨.table, .pattern q⟩]) := by
      rw [ht.chain_child hp' hn']
      exact askedAlong_cons_of_ofNode? (hasks hv') hlinks
    refine mem_describing_shapes (ofNode?_eq_some ht hp hn (hasks hv) hbelow) ?_ ?_
    · simp [RuleLink.describes, Label.accepts, hkind, haccepts, RuleSubject.kind]
    · simp only [o.linksAbove_eq_linksOfName, hkind, reduceCtorEq, if_false, if_true,
        ObjectKind.isContainer, Bool.false_eq_true]
      refine fitsWithin_append hfits ?_
      simp [linksOfName, htable, fitsWithin, RuleLink.describes, Label.accepts, hinside]

end RuleTree

namespace LiveTree

variable {t : RuleTree} {live : LiveTree}

/-- Every rule that has a say about a node that is decided is reported with it. -/
theorem mem_matched (ht : t.WellFormed) (hlive : live.WellFormed) {id : Nat} {o : DiscoveredObject}
    (hstands : live.StandsFor id o) {s : Sieve}
    (hdecided : (live.annotate s t.shapes id ⟨o.kind, o.name⟩).membership ≠ .undetermined)
    {catalogKey schemaKey : Option String}
    (hscope : t.Scoped (Text.nonBlank o.catalog) (Text.nonBlank o.schema) catalogKey schemaKey)
    {rule : Nat} (h : t.SpeaksAbout catalogKey schemaKey o rule) :
    rule ∈ (live.annotate s t.shapes id ⟨o.kind, o.name⟩).matched := by
  have hresult := membership_annotate live s t.shapes id ⟨o.kind, o.name⟩
  rw [hresult] at hdecided
  rcases hd : live.decide s id ⟨o.kind, o.name⟩ with e | d
  · rw [hd] at hdecided
    exact absurd rfl hdecided
  · rw [hstands.ofResult_decide hlive, ne_eq, Sieve.ofResult_decide_eq_undetermined_iff, not_or,
      not_and] at hdecided
    obtain ⟨name, hname⟩ := Option.ne_none_iff_exists'.1 hdecided.1
    have hlink : live.link? id = some ⟨o.kind, name⟩ := by
      simp [link?, hstands.1, show Text.nonBlank o.name = some name from hname]
    simp only [annotate, hd, hlink]
    rw [hstands.linksAbove_eq hlive]
    exact h.mem_describing ht hname hdecided.2 hscope

end LiveTree

end SchemaSieve
