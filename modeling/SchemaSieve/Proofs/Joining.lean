import Mathlib.Tactic
import SchemaSieve.Proofs.Reordering

/-!
# Containers of one name

Two containers of one name say together what one container says that has the lists of both
(`RulesDocument.Joins`). The one container takes the place of the first, so rules of the second
move in front of those of other containers of that name that stand in between. Where there are
none the sieve stays as it is, else its lists change their order.
-/

namespace SchemaSieve

/-! ## Lists -/

/-- `Joined keyOf join key between xs ys`: two items of `xs` under a key become one in `ys`, at the
place of the first. Between them stand items under the keys `between`. -/
inductive Joined {α : Type} (keyOf : α → Option String) (join : α → α → α) (key : Option String)
    (between : List (Option String)) : List α → List α → Prop where
  | mk (before mid after : List α) {a b : α} (ha : keyOf a = key) (hb : keyOf b = key)
      (hmid : mid.map keyOf = between) :
      Joined keyOf join key between (before ++ a :: (mid ++ b :: after))
        (before ++ join a b :: (mid ++ after))

namespace Joined

variable {α : Type} {keyOf : α → Option String} {join : α → α → α} {key : Option String}
  {between : List (Option String)} {xs ys : List α}

theorem append_left (ws : List α) (h : Joined keyOf join key between xs ys) :
    Joined keyOf join key between (ws ++ xs) (ws ++ ys) := by
  obtain ⟨before, mid, after, ha, hb, hmid⟩ := h
  rw [← List.append_assoc, ← List.append_assoc]
  exact .mk (ws ++ before) mid after ha hb hmid

theorem append_right (ws : List α) (h : Joined keyOf join key between xs ys) :
    Joined keyOf join key between (xs ++ ws) (ys ++ ws) := by
  obtain ⟨before, mid, after, ha, hb, hmid⟩ := h
  simp only [List.append_assoc, List.cons_append]
  exact .mk before mid (after ++ ws) ha hb hmid

/-- Among the items under one key nothing stands between the two that are joined, unless an item of
their own key did. -/
theorem filter (hkey : ∀ a b, keyOf (join a b) = keyOf a)
    (h : Joined keyOf join key between xs ys) (hbetween : key ∉ between) (k : Option String) :
    (xs.filter fun x => keyOf x == k) = (ys.filter fun x => keyOf x == k) ∨
      Joined keyOf join key [] (xs.filter fun x => keyOf x == k)
        (ys.filter fun x => keyOf x == k) := by
  obtain ⟨before, mid, after, ha, hb, rfl⟩ := h
  rename_i a b
  have hjoin : keyOf (join a b) = key := (hkey a b).trans ha
  by_cases hk : key = k
  · right
    subst hk
    have hmid : (mid.filter fun x => keyOf x == key) = [] := by
      refine List.filter_eq_nil_iff.2 fun x hx heq => hbetween ?_
      rw [← eq_of_beq heq]
      exact List.mem_map_of_mem hx
    simp only [List.filter_append, List.filter_cons, ha, hb, hjoin, hmid, BEq.rfl, if_true,
      List.nil_append]
    exact .mk _ [] _ ha hb rfl
  · left
    have hne : (key == k) = false := by simpa using hk
    simp [List.filter_append, ha, hb, hjoin, hne]

/-- What an item and the next one give together, the joined item gives. -/
theorem flatMap_eq {β : Type} {f : α → List β} (hf : ∀ a b, f (join a b) = f a ++ f b)
    (h : Joined keyOf join key [] xs ys) : xs.flatMap f = ys.flatMap f := by
  obtain ⟨before, mid, after, -, -, hmid⟩ := h
  obtain rfl := List.map_eq_nil_iff.1 hmid
  simp [hf]

/-- The second of the joined items asks for no entry that the first did not ask for. -/
theorem entryNames_eq (hkey : ∀ a b, keyOf (join a b) = keyOf a)
    (h : Joined keyOf join key between xs ys) :
    entryNames (xs.map keyOf) = entryNames (ys.map keyOf) := by
  obtain ⟨before, mid, after, ha, hb, -⟩ := h
  rename_i a b
  have hmem : key ∈ (before ++ a :: mid).map keyOf := by simp [ha]
  have hsecond : entryNames ((before ++ a :: mid).map keyOf ++ key :: after.map keyOf)
      = entryNames ((before ++ a :: mid).map keyOf ++ after.map keyOf) :=
    entryNames_append_cons hmem
  simpa [ha, hb, hkey] using hsecond

/-- With the second item moved behind the first, nothing stands between the joined items. -/
theorem exists_perm (h : Joined keyOf join key between xs ys) :
    ∃ zs, xs.Perm zs ∧ Joined keyOf join key [] zs ys := by
  obtain ⟨before, mid, after, ha, hb, -⟩ := h
  rename_i a b
  refine ⟨before ++ a :: b :: (mid ++ after), ?_, .mk before [] (mid ++ after) ha hb rfl⟩
  exact (List.perm_middle.cons a).append_left before

end Joined

/-! ## Containers -/

/-- A schema with the rules of another in addition. -/
def SchemaRules.append (a b : SchemaRules) : SchemaRules where
  name := a.name
  rules := a.rules.append b.rules

/-- A catalog with the schemas and rules of another in addition. -/
def CatalogRules.append (a b : CatalogRules) : CatalogRules where
  name := a.name
  schemas := a.schemas ++ b.schemas
  rules := a.rules.append b.rules

theorem SchemaRules.key_append (a b : SchemaRules) : (a.append b).key = a.key := rfl

theorem CatalogRules.key_append (a b : CatalogRules) : (a.append b).key = a.key := rfl

namespace RuleLists

theorem together_append (rs ss : List RuleLists) :
    together (rs ++ ss) = (together rs).append (together ss) := by
  induction rs with
  | nil => rfl
  | cons r rs ih => rw [List.cons_append, together_cons, together_cons, ih, append_assoc]

/-- Rules in one namespace and in the next one make the same together as in one. -/
theorem together_map_joined {α : Type} {keyOf : α → Option String} {join : α → α → α}
    {key : Option String} {xs ys : List α} {rules : α → RuleLists}
    (hrules : ∀ a b, rules (join a b) = (rules a).append (rules b))
    (h : Joined keyOf join key [] xs ys) : together (xs.map rules) = together (ys.map rules) := by
  obtain ⟨before, mid, after, -, -, hmid⟩ := h
  obtain rfl := List.map_eq_nil_iff.1 hmid
  simp only [List.nil_append, List.map_append, List.map_cons, together_append, together_cons,
    hrules, append_assoc]

end RuleLists

namespace RulesDocument

variable {d d' : RulesDocument} {key : Option String} {between : List (Option String)}

/-- Two catalogs under a key, or two schemas under a key in one catalog or at the root, are joined.
Between them stand containers of their kind under the keys `between`. -/
inductive Joins (key : Option String) (between : List (Option String)) :
    RulesDocument → RulesDocument → Prop where
  | catalogs {d : RulesDocument} {cs : List CatalogRules}
      (h : Joined CatalogRules.key CatalogRules.append key between d.catalogs cs) :
      Joins key between d { d with catalogs := cs }
  | schemasOf {d : RulesDocument} {before after : List CatalogRules} {c : CatalogRules}
      {ss : List SchemaRules} (hc : d.catalogs = before ++ c :: after)
      (h : Joined SchemaRules.key SchemaRules.append key between c.schemas ss) :
      Joins key between d { d with catalogs := before ++ { c with schemas := ss } :: after }
  | schemas {d : RulesDocument} {ss : List SchemaRules}
      (h : Joined SchemaRules.key SchemaRules.append key between d.schemas ss) :
      Joins key between d { d with schemas := ss }

/-- Entries are the same if the candidates are those of the other document, two of them joined, and
the catalogs have the same rules. -/
theorem catalogEntryAt_eq_of_joined {catalogKey : Option String} (hbetween : key ∉ between)
    (hcandidates : d.candidates catalogKey = d'.candidates catalogKey ∨
      Joined SchemaRules.key SchemaRules.append key between (d.candidates catalogKey)
        (d'.candidates catalogKey))
    (hcatalogs : RuleLists.together ((d.catalogsFor catalogKey).map (·.rules))
      = RuleLists.together ((d'.catalogsFor catalogKey).map (·.rules)))
    (hroot : d.rules = d'.rules) : d.catalogEntryAt catalogKey = d'.catalogEntryAt catalogKey := by
  have hnames : entryNames ((d.candidates catalogKey).map SchemaRules.key)
      = entryNames ((d'.candidates catalogKey).map SchemaRules.key) := by
    rcases hcandidates with heq | hjoined
    · rw [heq]
    · exact hjoined.entryNames_eq SchemaRules.key_append
  have hschemas : ∀ schemaKey,
      RuleLists.together
          (((d.candidates catalogKey).filter fun s => s.key == schemaKey).map (·.rules))
        = RuleLists.together
          (((d'.candidates catalogKey).filter fun s => s.key == schemaKey).map (·.rules)) := by
    intro schemaKey
    rcases hcandidates with heq | hjoined
    · rw [heq]
    · rcases hjoined.filter SchemaRules.key_append hbetween schemaKey with heq | hjoined
      · rw [heq]
      · exact RuleLists.together_map_joined (fun _ _ => rfl) hjoined
  have hentry : d.schemaEntryAt catalogKey = d'.schemaEntryAt catalogKey := by
    funext schemaKey
    rw [schemaEntryAt, schemaEntryAt, applicable, applicable, RuleLists.together_append,
      RuleLists.together_append, RuleLists.together_append, RuleLists.together_append,
      hschemas, hcatalogs, hroot]
  rw [catalogEntryAt, catalogEntryAt, hnames, hentry]

/-- Joined containers are compiled to the entries of the two, if there is no other of their name in
between. -/
theorem Joins.catalogEntryAt_eq (h : d.Joins key between d') (hbetween : key ∉ between)
    (catalogKey : Option String) : d.catalogEntryAt catalogKey = d'.catalogEntryAt catalogKey := by
  cases h with
  | catalogs h =>
    rcases h.filter CatalogRules.key_append hbetween catalogKey with heq | hjoined
    · exact catalogEntryAt_congr heq rfl rfl
    · refine catalogEntryAt_eq_of_joined hbetween (.inl ?_) ?_ rfl
      · exact congrArg (· ++ d.schemas) (hjoined.flatMap_eq fun _ _ => rfl)
      · exact RuleLists.together_map_joined (fun _ _ => rfl) hjoined
  | schemasOf hc h =>
    rename_i before after c ss
    by_cases hck : c.key = catalogKey
    · -- The schemas of the catalog stand among the candidates.
      have hown : d.catalogsFor catalogKey = (before.filter fun c => c.key == catalogKey) ++
          c :: after.filter fun c => c.key == catalogKey := by
        simp [catalogsFor, hc, hck]
      have hkey : ({ c with schemas := ss } : CatalogRules).key = catalogKey := hck
      have hown' : ({ d with catalogs := before ++ { c with schemas := ss } :: after } :
          RulesDocument).catalogsFor catalogKey = (before.filter fun c => c.key == catalogKey) ++
            { c with schemas := ss } :: after.filter fun c => c.key == catalogKey := by
        simp [catalogsFor, hkey]
      refine catalogEntryAt_eq_of_joined hbetween (.inr ?_) ?_ rfl
      · rw [candidates, candidates, hown, hown', List.flatMap_append, List.flatMap_append,
          List.flatMap_cons, List.flatMap_cons]
        exact ((h.append_right _).append_left _).append_right _
      · rw [hown, hown', List.map_append, List.map_append, List.map_cons, List.map_cons]
    · have hne : (c.key == catalogKey) = false := by simpa using hck
      have hne' : (({ c with schemas := ss } : CatalogRules).key == catalogKey) = false := hne
      have hown : d.catalogsFor catalogKey
          = ({ d with catalogs := before ++ { c with schemas := ss } :: after } :
            RulesDocument).catalogsFor catalogKey := by
        simp [catalogsFor, hc, hne, hne']
      exact catalogEntryAt_congr hown rfl rfl
  | schemas h =>
    exact catalogEntryAt_eq_of_joined hbetween (.inr (h.append_left _)) rfl rfl

theorem Joins.sieve_eq (h : d.Joins key between d') (hbetween : key ∉ between) :
    (RuleTree.ofDocument d').compile.sieve = (RuleTree.ofDocument d).compile.sieve := by
  have hnames : entryNames (d.catalogs.map CatalogRules.key)
      = entryNames (d'.catalogs.map CatalogRules.key) := by
    cases h with
    | catalogs h => exact h.entryNames_eq CatalogRules.key_append
    | schemasOf hc _ => simp [hc, CatalogRules.key]
    | schemas _ => rfl
  rw [compile_sieve, compile_sieve, hnames, funext (h.catalogEntryAt_eq hbetween)]

/-- With the second container moved behind the first, nothing stands between the two. -/
theorem Joins.exists_reordered (h : d.Joins key between d') :
    ∃ e, d.Reordered e ∧ e.Joins key [] d' := by
  have hsame : ∀ cs : List CatalogRules, List.Forall₂ CatalogRules.Reordered cs cs :=
    fun _ => List.forall₂_same.2 fun c _ => .refl c
  cases h with
  | catalogs h =>
    obtain ⟨zs, hperm, hjoined⟩ := h.exists_perm
    exact ⟨{ d with catalogs := zs }, ⟨.of_perm CatalogRules.Reordered.refl hperm,
      .of_perm SchemaRules.Reordered.refl .rfl, .refl d.rules⟩, .catalogs hjoined⟩
  | schemasOf hc h =>
    rename_i before after c ss
    obtain ⟨zs, hperm, hjoined⟩ := h.exists_perm
    have hcatalog : c.Reordered { c with schemas := zs } :=
      ⟨rfl, .of_perm SchemaRules.Reordered.refl hperm, .refl c.rules⟩
    refine ⟨{ d with catalogs := before ++ { c with schemas := zs } :: after }, ⟨?_,
      .of_perm SchemaRules.Reordered.refl .rfl, .refl d.rules⟩,
      .schemasOf (c := { c with schemas := zs }) rfl hjoined⟩
    rw [hc]
    exact .of_forall₂ (List.rel_append (hsame before) (.cons hcatalog (hsame after)))
  | schemas h =>
    obtain ⟨zs, hperm, hjoined⟩ := h.exists_perm
    exact ⟨{ d with schemas := zs }, ⟨.of_perm CatalogRules.Reordered.refl .rfl,
      .of_perm SchemaRules.Reordered.refl hperm, .refl d.rules⟩, .schemas hjoined⟩

/-- Joining two containers of one name changes at most the order in the sieve, and nothing if no
other container of that name stands between them. -/
theorem Joins.sieve_joined (h : d.Joins key between d') :
    (key ∉ between →
      (RuleTree.ofDocument d').compile.sieve = (RuleTree.ofDocument d).compile.sieve) ∧
    (RuleTree.ofDocument d).compile.sieve.Reordered (RuleTree.ofDocument d').compile.sieve := by
  obtain ⟨e, hreordered, hjoins⟩ := h.exists_reordered
  refine ⟨h.sieve_eq, ?_⟩
  rw [hjoins.sieve_eq List.not_mem_nil]
  exact hreordered.sieve

/-- Two catalogs of one name, with one for other names between them. -/
def salesAround : RulesDocument where
  catalogs :=
    [{ name := some "SALES", schemas := [{ name := some "EU" }],
        rules := { includeTables := [.bare "A"] } },
      { name := some "\t", rules := { excludeTables := ["B"] } },
      { name := some "SALES", schemas := [{ name := some "US" }, { name := some "EU" }],
        rules := { includeTables := [.bare "B"], excludeTables := ["B"] } }]

def salesTogether : RulesDocument where
  catalogs :=
    [{ name := some "SALES",
        schemas := [{ name := some "EU" }, { name := some "US" }, { name := some "EU" }],
        rules := { includeTables := [.bare "A", .bare "B"], excludeTables := ["B"] } },
      { name := some "\t", rules := { excludeTables := ["B"] } }]

theorem sieve_joined_salesTogether :
    salesAround.Joins (some "SALES") [none] salesTogether ∧
      some "SALES" ∉ [(none : Option String)] ∧
      (RuleTree.ofDocument salesTogether).compile.sieve
        = (RuleTree.ofDocument salesAround).compile.sieve := by
  have hjoined : Joined CatalogRules.key CatalogRules.append (some "SALES") [none]
      salesAround.catalogs salesTogether.catalogs :=
    .mk [] [({ name := some "\t", rules := { excludeTables := ["B"] } } : CatalogRules)] []
      rfl rfl rfl
  have hjoins : salesAround.Joins (some "SALES") [none] salesTogether := .catalogs hjoined
  have hbetween : some "SALES" ∉ [(none : Option String)] := by decide
  exact ⟨hjoins, hbetween, hjoins.sieve_joined.1 hbetween⟩

/-- Three catalogs of one name; the last two bring different rules for the columns of one table. -/
def threeSales : RulesDocument where
  catalogs :=
    [{ name := some "SALES" },
      { name := some "SALES", rules := { includeTables := [.detailed "T" ["A"] []] } },
      { name := some "SALES", rules := { includeTables := [.detailed "T" ["B"] []] } }]

/-- The last catalog joined to the first. -/
def twoSales : RulesDocument where
  catalogs :=
    [{ name := some "SALES", rules := { includeTables := [.detailed "T" ["B"] []] } },
      { name := some "SALES", rules := { includeTables := [.detailed "T" ["A"] []] } }]

/-- A catalog of that name in between makes a difference. -/
theorem threeSales_sieve_ne :
    threeSales.Joins (some "SALES") [some "SALES"] twoSales ∧
      (RuleTree.ofDocument twoSales).compile.sieve
        ≠ (RuleTree.ofDocument threeSales).compile.sieve ∧
      (RuleTree.ofDocument threeSales).compile.sieve.decide
          ⟨some "SALES", none, some "T", some "A"⟩ .column = .ok .included ∧
        (RuleTree.ofDocument twoSales).compile.sieve.decide
          ⟨some "SALES", none, some "T", some "A"⟩ .column = .ok .excluded := by
  have hjoined : Joined CatalogRules.key CatalogRules.append (some "SALES") [some "SALES"]
      threeSales.catalogs twoSales.catalogs :=
    .mk []
      [({ name := some "SALES", rules := { includeTables := [.detailed "T" ["A"] []] } } :
        CatalogRules)] [] rfl rfl rfl
  refine ⟨.catalogs hjoined, ?_, ?_, ?_⟩
  all_goals decide +kernel

end RulesDocument

end SchemaSieve
