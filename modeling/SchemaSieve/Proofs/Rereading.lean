import SchemaSieve.Proofs.Values
import SchemaSieve.Rule.Reading
import SchemaSieve.Rule.Text

/-!
# Written rules read back

The text of a document leaves out what is empty, and its reader fills in what is left out. Field by
field the two agree: an entry that was written sets its field, and a field without an entry has the
value for which none is written (`stated`). So a document is read back as it was, if its text keeps
the value written in it (`RulesDocument.ofYaml_toYaml`).
-/

namespace SchemaSieve

open Yaml

/-! ## Fields that may be left out -/

/-- What is known of a list after its entry, which is written only if there is something in it. -/
def stated {α : Type} (xs : List α) : Option (List α) := if xs.isEmpty then none else some xs

theorem getD_stated {α : Type} (xs : List α) : (stated xs).getD [] = xs := by
  cases xs <;> rfl

theorem sourcesEntry_eq (key : String) (sources : List String) :
    sourcesEntry key sources = partsEntry key (sources.map .text) := by
  cases sources <;> rfl

theorem eq_of_mem_partsEntry {key : String} {parts : List Value} {e : String × Value}
    (h : e ∈ partsEntry key parts) : e = (key, .list parts) := by
  unfold partsEntry at h
  split at h
  · cases h
  · exact List.mem_singleton.1 h

theorem foldlM_append_eq {δ ε : Type} {add : δ → ε → Except Mismatch δ} {s s' s'' : δ}
    {xs ys : List ε} (h : xs.foldlM add s = pure s') (h' : ys.foldlM add s' = pure s'') :
    (xs ++ ys).foldlM add s = pure s'' := by
  rw [List.foldlM_append, h, pure_bind, h']

section

variable {α : Type}

/-- The entry of a list, among the data of a mapping, takes a draft on by that list. -/
theorem foldlM_partsEntry {δ κ : Type} {add : δ → κ × Datum → Except Mismatch δ} (f : String → κ)
    (key : String) (write : α → Value) (set : Option (List α) → δ)
    (hadd : ∀ xs, add (set none) (f key, .list (xs.map fun x => (write x).datum))
      = pure (set (some xs))) (xs : List α) :
    ((partsEntry key (xs.map write)).map fun e => (f e.1, e.2.datum)).foldlM add (set none)
      = pure (set (stated xs)) := by
  cases xs with
  | nil => rfl
  | cons x xs =>
    have h := hadd (x :: xs)
    simp only [partsEntry, stated, List.map_cons, List.isEmpty_cons, Bool.false_eq_true, if_false,
      List.map_nil, List.foldlM_cons, List.foldlM_nil, Value.datum, Value.itemData_eq, List.map_map,
      Function.comp_def, bind_pure] at h ⊢
    exact h

/-- The entry of a list takes a reader on by that list. -/
theorem steps_partsEntry {σ : Type} {step : σ → String → Site → Node → Reading σ} {depth : Nat}
    (key : String) (write : α → Value) (set : Option (List α) → σ)
    (hstep : ∀ xs n site, n.value? = some (.list (xs.map write)) → depth ≤ site.depth →
      step (set none) key site n = pure (set (some xs))) (xs : List α) :
    Steps step depth (set none) (partsEntry key (xs.map write)) (set (stated xs)) := by
  cases xs with
  | nil => exact .nil _
  | cons x xs => exact .cons (hstep (x :: xs)) (.nil _)

end

/-! ## Rule lists -/

theorem mapM_map_eq {α β : Type} {read : β → Except Mismatch α} {write : α → β}
    (h : ∀ x, read (write x) = pure x) (xs : List α) : (xs.map write).mapM read = pure xs := by
  induction xs with
  | nil => rfl
  | cons x xs ih => simp [h, ih]

theorem texts?_list (xs : List String) :
    (Datum.list (xs.map fun s => (Value.text s).datum)).texts? = pure xs := by
  have htext : ∀ s, (Value.text s).datum.text? "a string" = pure s := fun _ => rfl
  exact mapM_map_eq htext xs

theorem IncludeTableRule.ofDatum_toValue (r : IncludeTableRule) :
    ofDatum r.toValue.datum = .ok r := by
  cases r with
  | bare => rfl
  | detailed pattern includes excludes =>
    have hdraft : (Value.entryData ([("pattern", .text pattern)] ++
        sourcesEntry "include_columns" includes ++ sourcesEntry "exclude_columns" excludes)).foldlM
          IncludeDraft.add {} = pure ⟨some pattern, stated includes, stated excludes⟩ := by
      simp only [Value.entryData_eq, sourcesEntry_eq, List.map_append]
      refine foldlM_append_eq (foldlM_append_eq rfl
        (foldlM_partsEntry Datum.text "include_columns" Value.text
          (fun x => IncludeDraft.mk (some pattern) x none) (fun xs => ?_) _))
        (foldlM_partsEntry Datum.text "exclude_columns" Value.text
          (fun x => IncludeDraft.mk (some pattern) (stated includes) x) (fun xs => ?_) _) <;>
      · simp only [IncludeDraft.add, texts?_list]
        rfl
    unfold ofDatum
    simp only [toValue, Value.datum, detailedOf, hdraft, pure_bind, getD_stated]
    rfl

/-- The data of the rules of a namespace, under their keys. -/
def RuleLists.data (r : RuleLists) : List (String × Datum) :=
  r.toEntries.map fun e => (e.1, e.2.datum)

theorem RuleLists.ofEntries_data (r : RuleLists) : ofEntries r.data = .ok r := by
  have hrules : ∀ xs : List IncludeTableRule,
      ((Datum.list (xs.map fun r => r.toValue.datum)).list? >>= fun ds =>
        ds.mapM IncludeTableRule.ofDatum) = pure xs :=
    mapM_map_eq IncludeTableRule.ofDatum_toValue
  have hdraft : r.data.foldlM RuleListsDraft.add {}
      = pure ⟨stated r.includeTables, stated r.excludeTables, stated r.includeColumns,
        stated r.excludeColumns, stated r.includeProcedures, stated r.excludeProcedures⟩ := by
    simp only [data, toEntries, sourcesEntry_eq, List.map_append, List.append_assoc]
    refine foldlM_append_eq
        (foldlM_partsEntry id "include_tables" IncludeTableRule.toValue
          (fun x => RuleListsDraft.mk x none none none none none) (fun xs => ?_) _) <|
      foldlM_append_eq
        (foldlM_partsEntry id "exclude_tables" Value.text
          (fun x => RuleListsDraft.mk _ x none none none none) (fun xs => ?_) _) <|
      foldlM_append_eq
        (foldlM_partsEntry id "include_columns" Value.text
          (fun x => RuleListsDraft.mk _ _ x none none none) (fun xs => ?_) _) <|
      foldlM_append_eq
        (foldlM_partsEntry id "exclude_columns" Value.text
          (fun x => RuleListsDraft.mk _ _ _ x none none) (fun xs => ?_) _) <|
      foldlM_append_eq
        (foldlM_partsEntry id "include_procedures" Value.text
          (fun x => RuleListsDraft.mk _ _ _ _ x none) (fun xs => ?_) _)
        (foldlM_partsEntry id "exclude_procedures" Value.text
          (fun x => RuleListsDraft.mk _ _ _ _ _ x) (fun xs => ?_) _)
    · simp only [RuleListsDraft.add, hrules]
      rfl
    all_goals
      simp only [RuleListsDraft.add, texts?_list]
      rfl
  simp only [ofEntries, hdraft, pure_bind, getD_stated]
  rfl

/-! ## Namespaces -/

theorem within_sources (sources : List String) : (Value.list (sources.map .text)).Within 1 := by
  refine .list fun v hv => ?_
  obtain ⟨s, -, rfl⟩ := List.mem_map.1 hv
  exact .text 0 s

theorem IncludeTableRule.within_toValue (r : IncludeTableRule) : r.toValue.Within 2 := by
  cases r with
  | bare pattern => exact .text 2 pattern
  | detailed pattern includes excludes =>
    refine .mapping fun e he => ?_
    simp only [sourcesEntry_eq, List.mem_append, List.mem_singleton] at he
    rcases he with (rfl | he) | he
    · exact .text 1 pattern
    all_goals
      obtain rfl := eq_of_mem_partsEntry he
      exact within_sources _

namespace RuleLists

/-- The names of the six lists. -/
def keys : List String :=
  ["include_tables", "exclude_tables", "include_columns", "exclude_columns", "include_procedures",
    "exclude_procedures"]

/-- The entries of a namespace for its rules are under the names of the lists, and not deep. -/
theorem of_mem_toEntries {r : RuleLists} {e : String × Value} (h : e ∈ r.toEntries) :
    e.1 ∈ keys ∧ e.2.Within 3 := by
  simp only [toEntries, sourcesEntry_eq, List.mem_append] at h
  rcases h with ((((h | h) | h) | h) | h) | h
  · obtain rfl := eq_of_mem_partsEntry h
    refine ⟨by simp [keys], .list fun v hv => ?_⟩
    obtain ⟨r, -, rfl⟩ := List.mem_map.1 hv
    exact r.within_toValue
  all_goals
    obtain rfl := eq_of_mem_partsEntry h
    exact ⟨by simp [keys], (within_sources _).mono (by omega)⟩

end RuleLists

namespace NamespaceDraft

/-- A draft that has kept the entries for rules. -/
def keep (s : NamespaceDraft) (r : RuleLists) : NamespaceDraft :=
  { s with others := r.data.reverse ++ s.others }

@[simp]
theorem version_keep (s : NamespaceDraft) (r : RuleLists) : (s.keep r).version = s.version := rfl

@[simp]
theorem name_keep (s : NamespaceDraft) (r : RuleLists) : (s.keep r).name = s.name := rfl

@[simp]
theorem catalogs_keep (s : NamespaceDraft) (r : RuleLists) : (s.keep r).catalogs = s.catalogs := rfl

@[simp]
theorem schemas_keep (s : NamespaceDraft) (r : RuleLists) : (s.keep r).schemas = s.schemas := rfl

/-- A draft that has kept nothing else has the rules of the namespace. -/
@[simp]
theorem rules_keep (version : Option String) (name : Option (Option String))
    (catalogs : Option (List CatalogRules)) (schemas : Option (List SchemaRules)) (r : RuleLists) :
    (keep ⟨version, name, catalogs, schemas, []⟩ r).rules = .ok r := by
  rw [rules, keep, List.append_nil, List.reverse_reverse, r.ofEntries_data]

/-- A reader keeps the entries for rules until it has seen all entries. -/
theorem steps_keep {step : NamespaceDraft → String → Site → Node → Reading NamespaceDraft}
    (hstep : ∀ s site n, ∀ key ∈ RuleLists.keys, step s key site n = s.addOther key site n)
    {depth : Nat} (hdepth : 3 ≤ depth) (s : NamespaceDraft) (r : RuleLists) :
    Steps step depth s r.toEntries (s.keep r) := by
  have hentries : ∀ e ∈ r.toEntries, e.1 ∈ RuleLists.keys ∧ e.2.Within 3 :=
    fun e he => RuleLists.of_mem_toEntries he
  unfold keep RuleLists.data
  generalize r.toEntries = es at hentries
  induction es generalizing s with
  | nil => exact .nil s
  | cons e es ih =>
    obtain ⟨hkey, hwithin⟩ := hentries e (by simp)
    have hrest := ih { s with others := (e.1, e.2.datum) :: s.others }
      fun e he => hentries e (List.mem_cons_of_mem _ he)
    rw [List.map_cons, List.reverse_cons, List.append_assoc]
    refine .cons (fun n site hn hsite => ?_) hrest
    have hread : Datum.read site n = pure e.2.datum :=
      (hwithin.mono (Nat.le_trans hdepth hsite)).readWithin_eq hn site
    rw [hstep _ _ _ _ hkey, addOther, hread, pure_bind]

theorem steps_nameEntry {step : NamespaceDraft → String → Site → Node → Reading NamespaceDraft}
    (hstep : ∀ s site n, step s "name" site n = s.addName site n) (depth : Nat)
    (name : Option String) :
    Steps step depth {} (nameEntry name) { name := name.map some } := by
  cases name with
  | none => exact .nil _
  | some name =>
    refine .cons (fun n site hn _ => ?_) (.nil _)
    rw [hstep, addName, Reading.once_eq "name" (Reading.option_text_eq _ site hn)]
    rfl

end NamespaceDraft

open NamespaceDraft (keep steps_keep steps_nameEntry)

theorem join_map_some (name : Option String) : (name.map some).join = name := by
  cases name <;> rfl

theorem SchemaRules.undoes_read : Undoes read toValue 4 := by
  intro s n site hn hdepth
  have hother : ∀ s site n, ∀ key ∈ RuleLists.keys,
      addField s key site n = s.addOther key site n := by
    simp [RuleLists.keys, addField]
  have hsteps : Steps addField 3 {} (nameEntry s.name ++ s.rules.toEntries)
      (keep { name := s.name.map some } s.rules) :=
    (steps_nameEntry (fun _ _ _ => rfl) 3 s.name).append (steps_keep hother (by decide) _ s.rules)
  refine hsteps.mapping_eq ?_ _ hn hdepth
  simp only [NamespaceDraft.rules_keep, NamespaceDraft.name_keep, join_map_some]
  rfl

/-- A list of schemas takes a draft on that has none yet. -/
theorem NamespaceDraft.steps_schemas
    {step : NamespaceDraft → String → Site → Node → Reading NamespaceDraft}
    (hstep : ∀ s site n, step s "schemas" site n = s.addSchemas site n) {depth : Nat}
    (hdepth : 5 ≤ depth) {s : NamespaceDraft} (hs : s.schemas = none)
    (schemas : List SchemaRules) :
    Steps step depth s (partsEntry "schemas" (schemas.map SchemaRules.toValue))
      { s with schemas := stated schemas } := by
  obtain ⟨version, name, catalogs, _, others⟩ := s
  obtain rfl : _ = none := hs
  refine steps_partsEntry "schemas" SchemaRules.toValue
    (NamespaceDraft.mk version name catalogs · others) (fun xs n site hn hsite => ?_) schemas
  have hread : Reading.list SchemaRules.read site n = pure xs :=
    SchemaRules.undoes_read.list hn (Nat.le_trans hdepth hsite)
  rw [hstep, addSchemas, Reading.once_eq "schemas" hread]
  rfl

theorem CatalogRules.undoes_read : Undoes read toValue 6 := by
  intro c n site hn hdepth
  have hother : ∀ s site n, ∀ key ∈ RuleLists.keys,
      addField s key site n = s.addOther key site n := by
    simp [RuleLists.keys, addField]
  have hsteps : Steps addField 5 {}
      (nameEntry c.name ++ partsEntry "schemas" (c.schemas.map SchemaRules.toValue) ++
        c.rules.toEntries)
      (keep { name := c.name.map some, schemas := stated c.schemas } c.rules) :=
    ((steps_nameEntry (fun _ _ _ => rfl) 5 c.name).append
      (NamespaceDraft.steps_schemas (fun _ _ _ => rfl) (by decide) rfl c.schemas)).append
        (steps_keep hother (by decide) _ c.rules)
  refine hsteps.mapping_eq ?_ _ hn hdepth
  simp only [NamespaceDraft.rules_keep, NamespaceDraft.name_keep, NamespaceDraft.schemas_keep,
    join_map_some, getD_stated]
  rfl

/-! ## Documents -/

namespace RulesDocument

theorem undoes_read : Undoes read toValue 8 := by
  intro d n site hn hdepth
  have hother : ∀ s site n, ∀ key ∈ RuleLists.keys,
      addField s key site n = s.addOther key site n := by
    simp [RuleLists.keys, addField]
  have hversion : Steps addField 7 {} [("version", .text d.version)]
      { version := some d.version } := by
    refine .cons (fun n site hn _ => ?_) (.nil _)
    have hread : Reading.text "a string" site n = pure d.version :=
      undoes_text _ hn (Nat.zero_le _)
    simp only [addField, Reading.once_eq "version" hread]
    rfl
  have hcatalogs : Steps addField 7 { version := some d.version }
      (partsEntry "catalogs" (d.catalogs.map CatalogRules.toValue))
      { version := some d.version, catalogs := stated d.catalogs } := by
    refine steps_partsEntry "catalogs" CatalogRules.toValue
      (NamespaceDraft.mk (some d.version) none · none []) (fun xs n site hn hsite => ?_) d.catalogs
    have hread : Reading.list CatalogRules.read site n = pure xs :=
      CatalogRules.undoes_read.list hn hsite
    simp only [addField, Reading.once_eq "catalogs" hread]
    rfl
  have hsteps : Steps addField 7 {}
      ([("version", .text d.version)] ++
        partsEntry "catalogs" (d.catalogs.map CatalogRules.toValue) ++
        partsEntry "schemas" (d.schemas.map SchemaRules.toValue) ++ d.rules.toEntries)
      (keep { version := some d.version, catalogs := stated d.catalogs,
              schemas := stated d.schemas } d.rules) :=
    ((hversion.append hcatalogs).append
      (NamespaceDraft.steps_schemas (fun _ _ _ => rfl) (by decide) rfl d.schemas)).append
        (steps_keep hother (by decide) _ d.rules)
  refine hsteps.mapping_eq ?_ _ hn hdepth
  simp only [NamespaceDraft.rules_keep, NamespaceDraft.version_keep, NamespaceDraft.catalogs_keep,
    NamespaceDraft.schemas_keep, getD_stated]
  rfl

/-- A document is read back from its text as it was, if the text keeps the value that the document
is written as. -/
theorem ofYaml_toYaml (d : RulesDocument) (h : d.toValue.reread = some d.toValue) :
    ofYaml d.toYaml = .ok d := by
  unfold Value.reread at h
  split at h
  · rename_i y hparse
    have hread : y.read read = .ok d := by
      rw [Document.read, undoes_read h (by decide)]
      rfl
    rw [ofYaml, readText, toYaml, hparse]
    simp only [hread]
    rfl
  · cases h

/-- Texts that look like something else, lists that are left out, and an include that keeps its long
form though nothing is in its lists. -/
def lookalikes : RulesDocument where
  version := "1.0"
  catalogs := [{ name := "null", schemas := [{ rules := { excludeTables := [""] } }] }]
  rules := { includeTables := [.detailed "A: B" [] [], .bare "~"] }

theorem ofYaml_toYaml_lookalikes :
    lookalikes.toValue.reread = some lookalikes.toValue ∧
      ofYaml lookalikes.toYaml = .ok lookalikes := by
  have hkept : lookalikes.toValue.reread = some lookalikes.toValue := by decide +kernel
  exact ⟨hkept, ofYaml_toYaml lookalikes hkept⟩

end RulesDocument

end SchemaSieve
