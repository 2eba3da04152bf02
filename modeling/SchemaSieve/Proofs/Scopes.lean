import Mathlib.Tactic
import SchemaSieve.Proofs.Collecting
import SchemaSieve.Proofs.Edits

/-!
# Scopes of a rule tree

Which containers of a rule tree speak about an object is said here on the nodes themselves. A node
counts if it is `Legal`; the containers that apply under a catalog key and a schema key are the
schemas with the one in catalogs with the other or at the root, those catalogs, and the root
(`Applies`). `applicable` lists them, innermost first.

`compile_sieve` says what compiling makes of a well-formed tree: an entry for each catalog key, in
it an entry for each schema key, and in that the filters of the applicable containers merged.
-/

namespace SchemaSieve

namespace RuleNode

/-- Nothing may contain a root. -/
theorem canContain_root (node : RuleNode) : node.canContain .root = false := by
  rcases node with _ | _ | _ | ⟨s, q, _⟩
  · rfl
  · rfl
  · rfl
  · cases s <;> cases q <;> rfl

/-- Nothing but a root may contain a catalog. -/
theorem eq_root_of_canContain_catalog {node : RuleNode} {name : Option String}
    (h : node.canContain (.catalog name) = true) : node = .root := by
  rcases node with _ | _ | _ | ⟨s, q, _⟩
  · rfl
  · cases h
  · cases h
  · cases s <;> cases q <;> cases h

theorem canContain_rule {node : RuleNode} (h : node.isContainer = true)
    (subject : RuleSubject) (polarity : Polarity) (source : String) :
    node.canContain (.rule subject polarity source) = true := by
  rcases node with _ | _ | _ | _
  · rfl
  · rfl
  · rfl
  · simp [isContainer] at h

end RuleNode

/-- The entry of a catalog as it comes from what catalogs and schemas are declared by. -/
theorem Sieve.catalogEntry_map {α β : Type} {declare : α → CatalogDeclaration}
    {declareSchema : β → SchemaEntry} (schemasOf : α → List β)
    (hschemas : ∀ a, (declare a).schemas = (schemasOf a).map declareSchema) (root : FilterSet)
    (catalogs : List α) (schemas : List β) (key : Option String) :
    catalogEntry root (catalogs.map declare) (schemas.map declareSchema) key =
      let own := catalogs.filter fun a => (declare a).name == key
      let candidates := own.flatMap schemasOf ++ schemas
      ⟨key, (entryNames (candidates.map fun s => (declareSchema s).name)).map fun schemaKey =>
        ⟨schemaKey, .mergeAll
          ((candidates.filter fun s => (declareSchema s).name == schemaKey).map
              (fun s => (declareSchema s).filters) ++
            own.map (fun a => (declare a).filters) ++ [root])⟩⟩ := by
  have hown : (catalogs.map declare).filter (fun c => c.name == key)
      = (catalogs.filter fun a => (declare a).name == key).map declare := List.filter_map
  have hcandidates : ((catalogs.filter fun a => (declare a).name == key).map declare).flatMap
        (·.schemas) ++ schemas.map declareSchema
      = ((catalogs.filter fun a => (declare a).name == key).flatMap schemasOf ++ schemas).map
          declareSchema := by
    rw [List.map_append, List.flatMap_map, List.map_flatMap]
    simp only [hschemas]
  simp only [catalogEntry, hown, hcandidates, List.map_map, List.filter_map]
  rfl

namespace RuleTree

variable {t : RuleTree}

/-! ## Nodes that count -/

/-- A node is legal if every link from the root down to it keeps to the placement table. -/
inductive Legal (t : RuleTree) : Nat → Prop where
  | root : Legal t rootId
  | child {place id : Nat} {holder node : RuleNode} (hplace : Legal t place)
      (hparent : t.parent? id = some place) (hholder : t.node? place = some holder)
      (hnode : t.node? id = some node) (hcan : holder.canContain node = true) : Legal t id

/-- A legal catalog; its key is its name, a blank one taken for missing. -/
def LegalCatalog (t : RuleTree) (key : Option String) (id : Nat) : Prop :=
  t.Legal id ∧ ∃ name, t.node? id = some (.catalog name) ∧ Text.nonBlank name = key

/-- A legal schema that stands in a catalog with a key, or at the root. -/
def LegalSchema (t : RuleTree) (catalogKey key : Option String) (id : Nat) : Prop :=
  t.Legal id ∧ (∃ name, t.node? id = some (.schema name) ∧ Text.nonBlank name = key) ∧
    ∃ place, t.parent? id = some place ∧ (place = rootId ∨ t.LegalCatalog catalogKey place)

/-- The containers whose rules apply to what is looked up under a pair of keys. -/
def Applies (t : RuleTree) (catalogKey schemaKey : Option String) (id : Nat) : Prop :=
  t.LegalSchema catalogKey schemaKey id ∨ t.LegalCatalog catalogKey id ∨ id = rootId

/-- A rule with a pattern that is neither blank nor invalid, directly in a place. -/
def HasRule (t : RuleTree) (place : Nat) (subject : RuleSubject) (polarity : Polarity)
    (p : NamePattern) : Prop :=
  ∃ id source, t.parent? id = some place ∧ t.node? id = some (.rule subject polarity source) ∧
    validPattern? source = some p

/-! ## The same in the order of the tree -/

/-- The valid rules of one form directly in a place, with their patterns. -/
def validRules (t : RuleTree) (subject : RuleSubject) (polarity : Polarity) (place : Nat) :
    List (Nat × NamePattern) :=
  (t.childNodes place).filterMap fun c =>
    match c.2 with
    | .rule s q source =>
      if s = subject ∧ q = polarity then (validPattern? source).map (c.1, ·) else none
    | _ => none

/-- The catalogs directly below the root, with their keys. -/
def catalogs (t : RuleTree) : List (Nat × Option String) :=
  (t.childNodes rootId).filterMap fun c =>
    match c.2 with
    | .catalog name => some (c.1, Text.nonBlank name)
    | _ => none

/-- The schemas directly below a node, with their keys. -/
def schemas (t : RuleTree) (place : Nat) : List (Nat × Option String) :=
  (t.childNodes place).filterMap fun c =>
    match c.2 with
    | .schema name => some (c.1, Text.nonBlank name)
    | _ => none

/-- The containers with a key among some with their keys. -/
def keyed (key : Option String) (containers : List (Nat × Option String)) : List Nat :=
  (containers.filter fun c => c.2 == key).map (·.1)

/-- The schemas in the catalogs with a key, then those at the root. -/
def candidates (t : RuleTree) (catalogKey : Option String) : List (Nat × Option String) :=
  (keyed catalogKey t.catalogs).flatMap t.schemas ++ t.schemas rootId

/-- The containers that apply under a pair of keys, innermost first. -/
def applicable (t : RuleTree) (catalogKey schemaKey : Option String) : List Nat :=
  keyed schemaKey (t.candidates catalogKey) ++ keyed catalogKey t.catalogs ++ [rootId]

theorem mem_keyed {key : Option String} {containers : List (Nat × Option String)} {id : Nat} :
    id ∈ keyed key containers ↔ (id, key) ∈ containers := by
  simp only [keyed, List.mem_map, List.mem_filter, beq_iff_eq]
  constructor
  · rintro ⟨⟨i, k⟩, ⟨hc, rfl⟩, rfl⟩
    exact hc
  · intro h
    exact ⟨(id, key), ⟨h, rfl⟩, rfl⟩

theorem mem_validRules (ht : t.WellFormed) {place id : Nat} {subject : RuleSubject}
    {polarity : Polarity}
    {p : NamePattern} :
    (id, p) ∈ t.validRules subject polarity place ↔
      ∃ source, t.parent? id = some place ∧ t.node? id = some (.rule subject polarity source) ∧
        validPattern? source = some p := by
  simp only [validRules, List.mem_filterMap]
  constructor
  · rintro ⟨⟨c, node⟩, hc, h⟩
    rcases node with _ | _ | _ | ⟨s, q, source⟩
    · simp at h
    · simp at h
    · simp at h
    · simp only at h
      split_ifs at h with hsq
      obtain ⟨rfl, rfl⟩ := hsq
      obtain ⟨v, hv, hvp⟩ := Option.map_eq_some_iff.1 h
      cases hvp
      obtain ⟨hp, hn⟩ := (mem_childNodes ht.links).1 hc
      exact ⟨source, hp, hn, hv⟩
  · rintro ⟨source, hp, hn, hv⟩
    refine ⟨(id, .rule subject polarity source), (mem_childNodes ht.links).2 ⟨hp, hn⟩, ?_⟩
    simp [hv]

theorem hasRule_iff (ht : t.WellFormed) {place : Nat} {subject : RuleSubject} {polarity : Polarity}
    {p : NamePattern} :
    t.HasRule place subject polarity p ↔ ∃ id, (id, p) ∈ t.validRules subject polarity place := by
  simp only [HasRule, mem_validRules ht]

theorem mem_schemas (ht : t.WellFormed) {place id : Nat} {key : Option String} :
    (id, key) ∈ t.schemas place ↔
      t.parent? id = some place ∧ ∃ name, t.node? id = some (.schema name) ∧
        Text.nonBlank name = key := by
  simp only [schemas, List.mem_filterMap]
  constructor
  · rintro ⟨⟨c, node⟩, hc, h⟩
    rcases node with _ | _ | name | _
    · simp at h
    · simp at h
    · cases h
      obtain ⟨hp, hn⟩ := (mem_childNodes ht.links).1 hc
      exact ⟨hp, name, hn, rfl⟩
    · simp at h
  · rintro ⟨hp, name, hn, rfl⟩
    exact ⟨(id, .schema name), (mem_childNodes ht.links).2 ⟨hp, hn⟩, rfl⟩

/-! ## Legal containers -/

/-- Only number `0` holds a legal root, as nothing may contain one. -/
theorem Legal.eq_rootId {id : Nat} (h : t.Legal id) (hn : t.node? id = some .root) :
    id = rootId := by
  cases h with
  | root => rfl
  | child hplace hparent hholder hnode hcan =>
    rw [hn, Option.some.injEq] at hnode
    rw [← hnode, RuleNode.canContain_root] at hcan
    cases hcan

/-- Legal catalogs stand at the root, as nothing else may contain one. -/
theorem LegalCatalog.parent?_eq (ht : t.WellFormed) {id : Nat} {key : Option String}
    (h : t.LegalCatalog key id) : t.parent? id = some rootId := by
  obtain ⟨hl, name, hn, -⟩ := h
  cases hl with
  | root =>
    rw [ht.node?_root] at hn
    cases hn
  | child hplace hparent hholder hnode hcan =>
    rw [hn, Option.some.injEq] at hnode
    subst hnode
    obtain rfl := RuleNode.eq_root_of_canContain_catalog hcan
    obtain rfl := hplace.eq_rootId hholder
    exact hparent

theorem mem_catalogs (ht : t.WellFormed) {id : Nat} {key : Option String} :
    (id, key) ∈ t.catalogs ↔ t.LegalCatalog key id := by
  simp only [catalogs, List.mem_filterMap]
  constructor
  · rintro ⟨⟨c, node⟩, hc, h⟩
    rcases node with _ | name | _ | _
    · simp at h
    · cases h
      obtain ⟨hp, hn⟩ := (mem_childNodes ht.links).1 hc
      exact ⟨.child .root hp ht.node?_root hn rfl, name, hn, rfl⟩
    · simp at h
    · simp at h
  · intro h
    have hparent := h.parent?_eq ht
    obtain ⟨-, name, hn, rfl⟩ := h
    exact ⟨(id, .catalog name), (mem_childNodes ht.links).2 ⟨hparent, hn⟩, rfl⟩

theorem mem_candidates (ht : t.WellFormed) {catalogKey key : Option String} {id : Nat} :
    (id, key) ∈ t.candidates catalogKey ↔ t.LegalSchema catalogKey key id := by
  simp only [candidates, List.mem_append, List.mem_flatMap, mem_keyed, mem_catalogs ht,
    mem_schemas ht]
  constructor
  · rintro (⟨place, hc, hp, name, hn, rfl⟩ | ⟨hp, name, hn, rfl⟩)
    · have ⟨hl, cname, hcn, _⟩ := hc
      exact ⟨.child hl hp hcn hn rfl, ⟨name, hn, rfl⟩, place, hp, .inr hc⟩
    · exact ⟨.child .root hp ht.node?_root hn rfl, ⟨name, hn, rfl⟩, rootId, hp, .inl rfl⟩
  · rintro ⟨-, ⟨name, hn, rfl⟩, place, hp, rfl | hc⟩
    · exact .inr ⟨hp, name, hn, rfl⟩
    · exact .inl ⟨place, hc, hp, name, hn, rfl⟩

theorem candidates_congr {t' : RuleTree} (hcatalogs : t'.catalogs = t.catalogs)
    (hschemas : ∀ c ∈ t'.catalogs, t'.schemas c.1 = t.schemas c.1)
    (hroot : t'.schemas rootId = t.schemas rootId) (key : Option String) :
    t'.candidates key = t.candidates key := by
  have hin : ∀ c ∈ keyed key t'.catalogs, t'.schemas c = t.schemas c :=
    fun c hc => hschemas (c, key) (mem_keyed.1 hc)
  rw [candidates, candidates, ← hcatalogs, List.flatMap_congr hin, hroot]

theorem mem_applicable (ht : t.WellFormed) {catalogKey schemaKey : Option String} {id : Nat} :
    id ∈ t.applicable catalogKey schemaKey ↔ t.Applies catalogKey schemaKey id := by
  simp only [applicable, List.mem_append, mem_keyed, mem_candidates ht, mem_catalogs ht,
    List.mem_singleton, Applies, or_assoc]

theorem Applies.isContainer (ht : t.WellFormed) {catalogKey schemaKey : Option String} {id : Nat}
    (h : t.Applies catalogKey schemaKey id) :
    ∃ node, t.node? id = some node ∧ node.isContainer = true := by
  rcases h with ⟨-, ⟨name, hn, -⟩, -⟩ | ⟨-, name, hn, -⟩ | rfl
  · exact ⟨_, hn, rfl⟩
  · exact ⟨_, hn, rfl⟩
  · exact ⟨_, ht.node?_root, rfl⟩

/-! ## What compiling makes of them -/

/-- The branch that starts at a node with a value. -/
def branchAt (t : RuleTree) (id : Nat) (node : RuleNode) : Branch RuleNode :=
  .mk node ((t.children id).filterMap t.forest.branch?)

/-- The filters that the rules directly in a container give. -/
def filtersAt (t : RuleTree) (id : Nat) : FilterSet :=
  (t.node? id).elim .empty fun node => .inside (t.branchAt id node)

theorem branch?_eq (ht : t.WellFormed) (id : Nat) :
    t.forest.branch? id = (t.node? id).map (t.branchAt id) :=
  Forest.branch?_eq ht.links id

theorem branch_eq (ht : t.WellFormed) : t.branch = t.branchAt rootId .root := by
  rw [branch, branch?_eq ht, ht.node?_root]
  rfl

theorem children_branchAt (ht : t.WellFormed) (id : Nat) (node : RuleNode) :
    (t.branchAt id node).children = (t.childNodes id).map fun c => t.branchAt c.1 c.2 := by
  simp only [branchAt, Branch.children, childNodes, List.map_filterMap]
  refine List.filterMap_congr fun c _ => ?_
  rw [branch?_eq ht, Option.map_map]
  rfl

theorem legalChildren_branchAt (ht : t.WellFormed) (id : Nat) (node : RuleNode) :
    (t.branchAt id node).legalChildren
      = ((t.childNodes id).filter fun c => node.canContain c.2).map
          fun c => t.branchAt c.1 c.2 := by
  rw [Branch.legalChildren, children_branchAt ht, List.filter_map]
  rfl

theorem filtersAt_of_mem_childNodes (ht : t.WellFormed) {place id : Nat} {node : RuleNode}
    (h : (id, node) ∈ t.childNodes place) :
    FilterSet.inside (t.branchAt id node) = t.filtersAt id := by
  rw [filtersAt, ((mem_childNodes ht.links).1 h).2]
  rfl

/-- A schema with a key as compiling declares it. -/
def schemaDeclaration (t : RuleTree) (c : Nat × Option String) : SchemaEntry :=
  ⟨c.2, t.filtersAt c.1⟩

/-- A catalog with a key as compiling declares it. -/
def catalogDeclaration (t : RuleTree) (c : Nat × Option String) : CatalogDeclaration :=
  ⟨c.2, t.filtersAt c.1, (t.schemas c.1).map t.schemaDeclaration⟩

/-- Where every schema may stand, each schema that stands there is declared. -/
theorem declaredSchemas_branchAt (ht : t.WellFormed) (id : Nat) (node : RuleNode)
    (hnode : ∀ name, node.canContain (.schema name) = true) :
    declaredSchemas (t.branchAt id node)
      = (t.schemas id).map t.schemaDeclaration := by
  rw [declaredSchemas, legalChildren_branchAt ht, List.filterMap_map, List.filterMap_filter,
    schemas, List.map_filterMap]
  refine List.filterMap_congr fun ⟨c, n⟩ hc => ?_
  rcases n with _ | _ | name | _
  · simp [branchAt, Branch.value]
  · simp [branchAt, Branch.value]
  · have hf := filtersAt_of_mem_childNodes ht hc
    simp [hnode, schemaDeclaration, ← hf, branchAt, Branch.value]
  · simp [branchAt, Branch.value]

theorem declaredCatalogs_branchAt (ht : t.WellFormed) :
    declaredCatalogs (t.branchAt rootId .root)
      = t.catalogs.map t.catalogDeclaration := by
  rw [declaredCatalogs, legalChildren_branchAt ht, List.filterMap_map, List.filterMap_filter,
    catalogs, List.map_filterMap]
  refine List.filterMap_congr fun ⟨c, n⟩ hc => ?_
  rcases n with _ | name | _ | _
  · simp [branchAt, Branch.value]
  · have hf := filtersAt_of_mem_childNodes ht hc
    have hs := declaredSchemas_branchAt ht c (.catalog name) fun _ => rfl
    simp [RuleNode.canContain, catalogDeclaration, ← hf, ← hs, branchAt, Branch.value]
  · simp [branchAt, Branch.value]
  · simp [branchAt, Branch.value]

/-- The entry for a pair of keys: the filters of the applicable containers, merged. -/
def schemaEntryAt (t : RuleTree) (catalogKey schemaKey : Option String) : SchemaEntry :=
  ⟨schemaKey, .mergeAll ((t.applicable catalogKey schemaKey).map t.filtersAt)⟩

def catalogEntryAt (t : RuleTree) (catalogKey : Option String) : CatalogEntry :=
  ⟨catalogKey,
    (entryNames ((t.candidates catalogKey).map (·.2))).map (t.schemaEntryAt catalogKey)⟩

theorem catalogEntry_eq (t : RuleTree) (key : Option String) :
    Sieve.catalogEntry (t.filtersAt rootId) (t.catalogs.map t.catalogDeclaration)
        ((t.schemas rootId).map t.schemaDeclaration) key
      = t.catalogEntryAt key := by
  rw [Sieve.catalogEntry_map (fun c => t.schemas c.1) fun _ => rfl]
  have hcandidates : ((t.catalogs.filter fun c => c.2 == key).flatMap fun c => t.schemas c.1)
        ++ t.schemas rootId
      = t.candidates key := by
    rw [candidates, keyed, List.flatMap_map]
  have happlicable : ∀ schemaKey,
      ((t.candidates key).filter fun c => c.2 == schemaKey).map (fun c => t.filtersAt c.1)
        ++ (t.catalogs.filter fun c => c.2 == key).map (fun c => t.filtersAt c.1)
        ++ [t.filtersAt rootId]
      = (t.applicable key schemaKey).map t.filtersAt := by
    intro schemaKey
    rw [applicable, List.map_append, List.map_append, keyed, keyed, List.map_map, List.map_map]
    rfl
  simp only [catalogDeclaration, schemaDeclaration, hcandidates, happlicable]
  rfl

/-- Compiling makes an entry for each catalog key and in it one for each schema key. -/
theorem compile_sieve (ht : t.WellFormed) :
    t.compile.sieve = ⟨(entryNames (t.catalogs.map (·.2))).map t.catalogEntryAt⟩ := by
  have hroot : FilterSet.inside (t.branchAt rootId .root) = t.filtersAt rootId := by
    rw [filtersAt, ht.node?_root]
    rfl
  have hsieve : t.compile.sieve = Sieve.ofBranch t.branch := rfl
  have hentry : Sieve.catalogEntry (t.filtersAt rootId) (t.catalogs.map t.catalogDeclaration)
      ((t.schemas rootId).map t.schemaDeclaration) = t.catalogEntryAt :=
    funext t.catalogEntry_eq
  rw [hsieve, branch_eq ht, Sieve.ofBranch_eq, Sieve.ofDeclarations, declaredCatalogs_branchAt ht,
    hroot, declaredSchemas_branchAt ht rootId .root fun _ => rfl, List.map_map, hentry]
  rfl

/-! ## Looking entries up -/

/-- The keys under which the names of a catalog and of a schema in it are looked up. -/
def Scoped (t : RuleTree) (catalog schema catalogKey schemaKey : Option String) : Prop :=
  Resolves (fun key => ∃ id, t.LegalCatalog key id) catalog catalogKey ∧
    Resolves (fun key => ∃ id, t.LegalSchema catalogKey key id) schema schemaKey

theorem mem_map_snd_iff {containers : List (Nat × Option String)} {key : Option String} :
    key ∈ containers.map (·.2) ↔ ∃ id, (id, key) ∈ containers := by
  simp

theorem catalog?_compile (ht : t.WellFormed) {catalog : Option String} {e : CatalogEntry} :
    t.compile.sieve.catalog? catalog = some e ↔
      ∃ key, Resolves (fun key => ∃ id, t.LegalCatalog key id) catalog key ∧
        e = t.catalogEntryAt key := by
  rw [compile_sieve ht, Sieve.catalog?, findEntry?_entryNames fun _ => rfl]
  have hdeclared : ∀ key, key ∈ t.catalogs.map (·.2) ↔ ∃ id, t.LegalCatalog key id := by
    intro key
    simp only [mem_map_snd_iff, mem_catalogs ht]
  simp only [Resolves.congr hdeclared]

theorem findEntry?_catalogEntryAt (ht : t.WellFormed) {catalogKey schema : Option String}
    {e : SchemaEntry} :
    findEntry? SchemaEntry.name schema (t.catalogEntryAt catalogKey).schemas = some e ↔
      ∃ key, Resolves (fun key => ∃ id, t.LegalSchema catalogKey key id) schema key ∧
        e = t.schemaEntryAt catalogKey key := by
  have hdeclared : ∀ key, key ∈ (t.candidates catalogKey).map (·.2) ↔
      ∃ id, t.LegalSchema catalogKey key id := by
    intro key
    simp only [mem_map_snd_iff, mem_candidates ht]
  rw [catalogEntryAt, findEntry?_entryNames fun _ => rfl]
  simp only [Resolves.congr hdeclared]

theorem schema?_compile (ht : t.WellFormed) {catalog schema : Option String} {e : SchemaEntry} :
    t.compile.sieve.schema? catalog schema = some e ↔
      ∃ catalogKey schemaKey, t.Scoped catalog schema catalogKey schemaKey ∧
        e = t.schemaEntryAt catalogKey schemaKey := by
  rw [Sieve.schema?, Option.bind_eq_some_iff]
  simp only [catalog?_compile ht]
  constructor
  · rintro ⟨-, ⟨catalogKey, hc, rfl⟩, hs⟩
    obtain ⟨schemaKey, hk, rfl⟩ := (findEntry?_catalogEntryAt ht).1 hs
    exact ⟨catalogKey, schemaKey, ⟨hc, hk⟩, rfl⟩
  · rintro ⟨catalogKey, schemaKey, ⟨hc, hs⟩, rfl⟩
    exact ⟨_, ⟨catalogKey, hc, rfl⟩, (findEntry?_catalogEntryAt ht).2 ⟨schemaKey, hs, rfl⟩⟩

theorem isSome_catalog?_compile (ht : t.WellFormed) {catalog : Option String} :
    (t.compile.sieve.catalog? catalog).isSome = true ↔
      ∃ key, Resolves (fun key => ∃ id, t.LegalCatalog key id) catalog key := by
  rw [Option.isSome_iff_exists]
  simp only [catalog?_compile ht]
  exact ⟨fun ⟨_, key, hr, _⟩ => ⟨key, hr⟩, fun ⟨key, hr⟩ => ⟨_, key, hr, rfl⟩⟩

theorem isSome_schema?_compile (ht : t.WellFormed) {catalog schema : Option String} :
    (t.compile.sieve.schema? catalog schema).isSome = true ↔
      ∃ catalogKey schemaKey, t.Scoped catalog schema catalogKey schemaKey := by
  rw [Option.isSome_iff_exists]
  simp only [schema?_compile ht]
  exact ⟨fun ⟨_, c, s, hkeys, _⟩ => ⟨c, s, hkeys⟩, fun ⟨c, s, hkeys⟩ => ⟨_, c, s, hkeys, rfl⟩⟩

/-! ## What entries hold -/

theorem mem_patterns_filtersAt (ht : t.WellFormed) {id : Nat} {node : RuleNode}
    (hn : t.node? id = some node) (hc : node.isContainer = true) {subject : RuleSubject}
    {polarity : Polarity} {p : NamePattern} :
    p ∈ (t.filtersAt id).patterns subject polarity ↔ t.HasRule id subject polarity p := by
  rw [filtersAt, hn, Option.elim_some, FilterSet.inside, FilterSet.mem_patterns_mergeAll,
    legalChildren_branchAt ht]
  simp only [List.map_map, List.mem_map, List.mem_filter, Function.comp_apply]
  constructor
  · rintro ⟨-, ⟨⟨c, n⟩, ⟨hmem, -⟩, rfl⟩, hp⟩
    rw [FilterSet.patterns_ofBranch, FilterSet.mem_patterns_ofNode] at hp
    obtain ⟨source, rfl, hv⟩ : ∃ source, n = .rule subject polarity source ∧
      validPattern? source = some p := hp
    obtain ⟨hparent, hnode⟩ := (mem_childNodes ht.links).1 hmem
    exact ⟨c, source, hparent, hnode, hv⟩
  · rintro ⟨c, source, hparent, hnode, hv⟩
    refine ⟨_, ⟨(c, .rule subject polarity source), ⟨(mem_childNodes ht.links).2 ⟨hparent, hnode⟩,
      RuleNode.canContain_rule hc subject polarity source⟩, rfl⟩, ?_⟩
    rw [FilterSet.patterns_ofBranch, FilterSet.mem_patterns_ofNode]
    exact ⟨source, rfl, hv⟩

/-- An entry holds the patterns of the valid rules in the applicable containers. -/
theorem mem_patterns_schemaEntryAt (ht : t.WellFormed) {catalogKey schemaKey : Option String}
    {subject : RuleSubject} {polarity : Polarity} {p : NamePattern} :
    p ∈ (t.schemaEntryAt catalogKey schemaKey).filters.patterns subject polarity ↔
      ∃ id, t.Applies catalogKey schemaKey id ∧ t.HasRule id subject polarity p := by
  rw [schemaEntryAt, FilterSet.mem_patterns_mergeAll]
  simp only [List.mem_map]
  constructor
  · rintro ⟨-, ⟨id, hid, rfl⟩, hp⟩
    have happ := (mem_applicable ht).1 hid
    obtain ⟨node, hn, hc⟩ := happ.isContainer ht
    exact ⟨id, happ, (mem_patterns_filtersAt ht hn hc).1 hp⟩
  · rintro ⟨id, happ, hr⟩
    obtain ⟨node, hn, hc⟩ := happ.isContainer ht
    exact ⟨_, ⟨id, (mem_applicable ht).2 happ, rfl⟩, (mem_patterns_filtersAt ht hn hc).2 hr⟩

end RuleTree

end SchemaSieve
