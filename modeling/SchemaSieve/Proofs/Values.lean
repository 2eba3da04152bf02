import SchemaSieve.Yaml.Datum
import SchemaSieve.Yaml.Printer
import Mathlib.Data.List.Forall2

/-!
# Values in documents

A node without tags and aliases whose scalars are all texts holds a value (`Node.value?`), and a
text keeps the value written in it if the document that is read from it holds the value again
(`Value.reread`). What a reader makes of such a node depends on the value only: a reader that
expects nothing takes the value's data from it (`Value.Within.readWithin_eq`), and one that undoes
a writer (`Undoes`) takes what was written.
-/

namespace SchemaSieve.Yaml

open Reading (follow placing entering valueSite)

/-! ## The value of a node -/

theorem Plain.of_eq_text {s : String} (h : Plain.of s = .text) :
    (s.isEmpty || Plain.isNull s) = false := by
  unfold Plain.of at h
  split at h
  · cases h
  · rename_i hs
    exact Bool.eq_false_iff.2 hs

theorem Reading.resolve_eq_text {style : ScalarStyle} {s t : String}
    (h : Reading.resolve none style s = .ok (.text t)) :
    t = s ∧ (style = .plain → (s.isEmpty || Plain.isNull s) = false) := by
  have hfound : (if style = .plain then Reading.ofPlain s else .text s) = Found.text t :=
    Except.ok.inj h
  split_ifs at hfound with hstyle
  · unfold Reading.ofPlain at hfound
    split at hfound <;> cases hfound
    exact ⟨rfl, fun _ => Plain.of_eq_text ‹_›⟩
  · cases hfound
    exact ⟨rfl, fun hplain => absurd hplain hstyle⟩

namespace Node

mutual

/-- The value that a node holds. -/
def value? : Node → Option Value
  | scalar ⟨_, none, _⟩ style s =>
    match Reading.resolve none style s with
    | .ok (.text t) => some (.text t)
    | _ => none
  | list ⟨_, none, _⟩ ns => (itemValues? ns).map .list
  | mapping ⟨_, none, _⟩ es => (entryValues? es).map .mapping
  | _ => none

def itemValues? : List Node → Option (List Value)
  | [] => some []
  | n :: rest => do return (← n.value?) :: (← itemValues? rest)

def entryValues? : List (Node × Node) → Option (List (String × Value))
  | [] => some []
  | (k, v) :: rest => do
    match ← k.value? with
    | .text key => return (key, ← v.value?) :: (← entryValues? rest)
    | _ => none

end

/-- Items hold values, one each. -/
def ItemsHold (ns : List Node) (vs : List Value) : Prop :=
  List.Forall₂ (fun n v => n.value? = some v) ns vs

/-- Entries hold values behind keys, one each. -/
def EntriesHold (es : List (Node × Node)) (vs : List (String × Value)) : Prop :=
  List.Forall₂ (fun e v => e.1.value? = some (.text v.1) ∧ e.2.value? = some v.2) es vs

/-- What is so for every node with one of the values is so item by item. -/
theorem ItemsHold.map {α : Type} {P : Node → α → Prop} {f : Value → α} {ns : List Node}
    {vs : List Value} (h : ItemsHold ns vs) (hP : ∀ v ∈ vs, ∀ n, n.value? = some v → P n (f v)) :
    List.Forall₂ P ns (vs.map f) := by
  unfold ItemsHold at h
  induction h with
  | nil => exact .nil
  | @cons n v _ _ hn _ ih =>
    exact .cons (hP v (by simp) n hn) (ih fun v hv => hP v (List.mem_cons_of_mem _ hv))

theorem itemsHold_of_itemValues? : ∀ {ns : List Node} {vs : List Value},
    itemValues? ns = some vs → ItemsHold ns vs
  | [], vs, h => by
    cases h
    exact .nil
  | n :: rest, vs, h => by
    simp only [itemValues?, Option.pure_def, Option.bind_eq_bind, Option.bind_eq_some_iff,
      Option.some.injEq] at h
    obtain ⟨v, hv, vs, hvs, rfl⟩ := h
    exact .cons hv (itemsHold_of_itemValues? hvs)

theorem EntriesHold.map {α : Type} {P : Node × Node → α → Prop} {f : String × Value → α}
    {es : List (Node × Node)} {vs : List (String × Value)} (h : EntriesHold es vs)
    (hP : ∀ v ∈ vs, ∀ e, e.1.value? = some (.text v.1) → e.2.value? = some v.2 → P e (f v)) :
    List.Forall₂ P es (vs.map f) := by
  unfold EntriesHold at h
  induction h with
  | nil => exact .nil
  | @cons e v _ _ he _ ih =>
    exact .cons (hP v (by simp) e he.1 he.2) (ih fun v hv => hP v (List.mem_cons_of_mem _ hv))

theorem entriesHold_of_entryValues? : ∀ {es : List (Node × Node)} {vs : List (String × Value)},
    entryValues? es = some vs → EntriesHold es vs
  | [], vs, h => by
    cases h
    exact .nil
  | (k, n) :: rest, vs, h => by
    simp only [entryValues?, Option.pure_def, Option.bind_eq_bind, Option.bind_eq_some_iff] at h
    obtain ⟨key, hkey, h⟩ := h
    split at h
    · rename_i key
      simp only [Option.bind_eq_some_iff, Option.some.injEq] at h
      obtain ⟨v, hv, vs, hvs, rfl⟩ := h
      exact .cons ⟨hkey, hv⟩ (entriesHold_of_entryValues? hvs)
    · cases h

theorem eq_scalar_of_value? {n : Node} {s : String} (h : n.value? = some (.text s)) :
    ∃ mark anchor style, n = .scalar ⟨mark, none, anchor⟩ style s ∧
      Reading.resolve none style s = .ok (.text s) := by
  unfold value? at h
  split at h
  · split at h
    · rename_i hs
      cases h
      obtain ⟨rfl, -⟩ := Reading.resolve_eq_text hs
      exact ⟨_, _, _, rfl, hs⟩
    · cases h
  · simp at h
  · simp at h
  · cases h

theorem eq_list_of_value? {n : Node} {vs : List Value} (h : n.value? = some (.list vs)) :
    ∃ mark anchor ns, n = .list ⟨mark, none, anchor⟩ ns ∧ ItemsHold ns vs := by
  unfold value? at h
  split at h
  · split at h <;> cases h
  · obtain ⟨vs', hvs, heq⟩ := Option.map_eq_some_iff.1 h
    cases heq
    exact ⟨_, _, _, rfl, itemsHold_of_itemValues? hvs⟩
  · simp at h
  · cases h

theorem eq_mapping_of_value? {n : Node} {vs : List (String × Value)}
    (h : n.value? = some (.mapping vs)) :
    ∃ mark anchor es, n = .mapping ⟨mark, none, anchor⟩ es ∧ EntriesHold es vs := by
  unfold value? at h
  split at h
  · split at h <;> cases h
  · simp at h
  · obtain ⟨vs', hvs, heq⟩ := Option.map_eq_some_iff.1 h
    cases heq
    exact ⟨_, _, _, rfl, entriesHold_of_entryValues? hvs⟩
  · cases h

end Node

/-- The value that is read where a value was written. -/
def Value.reread (v : Value) : Option Value :=
  match Document.parse v.render with
  | .ok d => d.root.value?
  | .error _ => none

namespace Value

mutual

/-- Equality of values is decidable. -/
def decideEq : (v w : Value) → Decidable (v = w)
  | .text s, .text t => decidable_of_iff (s = t) (by rw [text.injEq])
  | .list vs, .list ws =>
    have := decideItemsEq vs ws
    decidable_of_iff (vs = ws) (by rw [list.injEq])
  | .mapping es, .mapping fs =>
    have := decideEntriesEq es fs
    decidable_of_iff (es = fs) (by rw [mapping.injEq])
  | .text _, .list _ | .text _, .mapping _ | .list _, .text _ | .list _, .mapping _
  | .mapping _, .text _ | .mapping _, .list _ => isFalse nofun

def decideItemsEq : (vs ws : List Value) → Decidable (vs = ws)
  | [], [] => isTrue rfl
  | v :: vs, w :: ws =>
    have := decideEq v w
    have := decideItemsEq vs ws
    decidable_of_iff (v = w ∧ vs = ws) (by rw [List.cons.injEq])
  | [], _ :: _ | _ :: _, [] => isFalse nofun

def decideEntriesEq : (es fs : List (String × Value)) → Decidable (es = fs)
  | [], [] => isTrue rfl
  | (key, v) :: es, (key', w) :: fs =>
    have := decideEq v w
    have := decideEntriesEq es fs
    decidable_of_iff ((key = key' ∧ v = w) ∧ es = fs) (by rw [List.cons.injEq, Prod.mk.injEq])
  | [], _ :: _ | _ :: _, [] => isFalse nofun

end

instance : DecidableEq Value := decideEq

end Value

/-! ## Reading without an expected type -/

namespace Value

mutual

/-- The data of a value. -/
def datum : Value → Datum
  | .text s => .text s
  | .list vs => .list (itemData vs)
  | .mapping es => .mapping (entryData es)

def itemData : List Value → List Datum
  | [] => []
  | v :: vs => v.datum :: itemData vs

def entryData : List (String × Value) → List (Datum × Datum)
  | [] => []
  | (key, v) :: es => (.text key, v.datum) :: entryData es

end

theorem itemData_eq : ∀ vs : List Value, itemData vs = vs.map datum
  | [] => rfl
  | v :: vs => by rw [itemData, itemData_eq vs, List.map_cons]

theorem entryData_eq : ∀ es : List (String × Value),
    entryData es = es.map fun e => (.text e.1, e.2.datum)
  | [] => rfl
  | (key, v) :: es => by rw [entryData, entryData_eq es, List.map_cons]

/-- At most so many lists and mappings of a value stand in one another. -/
inductive Within : Nat → Value → Prop
  | text (depth : Nat) (s : String) : Within depth (.text s)
  | list {depth : Nat} {vs : List Value} (h : ∀ v ∈ vs, Within depth v) :
    Within (depth + 1) (.list vs)
  | mapping {depth : Nat} {es : List (String × Value)} (h : ∀ e ∈ es, Within depth e.2) :
    Within (depth + 1) (.mapping es)

theorem Within.mono {depth depth' : Nat} {v : Value} (h : Within depth v) (hle : depth ≤ depth') :
    Within depth' v := by
  induction h generalizing depth' with
  | text => exact .text depth' _
  | list _ ih =>
    obtain ⟨d, rfl⟩ : ∃ d, depth' = d + 1 := ⟨depth' - 1, by omega⟩
    exact .list fun v hv => ih v hv (by omega)
  | mapping _ ih =>
    obtain ⟨d, rfl⟩ : ∃ d, depth' = d + 1 := ⟨depth' - 1, by omega⟩
    exact .mapping fun e he => ih e he (by omega)

end Value

section

variable {α : Type} {read : Site → Node → Reading α}

theorem Reading.items_eq {site : Site} {ns : List Node} {xs : List α}
    (h : List.Forall₂ (fun n x => ∀ path, read { site with path } n = pure x) ns xs) (i : Nat)
    (done : List α) : Reading.items read site i done ns = pure (done.reverse ++ xs) := by
  induction h generalizing i done with
  | nil => simp [Reading.items]
  | cons hread _ ih => simp [Reading.items, hread, ih]

end

theorem Datum.readEntries_eq {read : Site → Node → Reading Datum} {site : Site}
    {es : List (Node × Node)} {xs : List (Datum × Datum)}
    (h : List.Forall₂ (fun e x => ∀ site, read site e.1 = pure x.1 ∧ read site e.2 = pure x.2) es
      xs)
    (done : List (Datum × Datum)) :
    Datum.readEntries read site done es = pure (done.reverse ++ xs) := by
  induction h generalizing done with
  | nil => simp [Datum.readEntries]
  | cons hread _ ih => simp [Datum.readEntries, hread, ih]

theorem Datum.readWithin_text (depth : Nat) {n : Node} {s : String}
    (hn : n.value? = some (.text s)) (site : Site) :
    Datum.readWithin depth site n = pure (.text s) := by
  obtain ⟨mark, anchor, style, rfl, hs⟩ := Node.eq_scalar_of_value? hn
  have hnode : ∀ inner, Datum.readNode inner site (.scalar ⟨mark, none, anchor⟩ style s)
      = pure (.text s) := by
    intro inner
    unfold Datum.readNode
    simp only [follow, pure_bind, Reading.found, hs]
    rfl
  cases depth with
  | zero => exact hnode none
  | succ depth => exact hnode (some (Datum.readWithin depth))

/-- A reader that expects nothing takes a value's data from every node that holds it. -/
theorem Value.Within.readWithin_eq {depth : Nat} {v : Value} (hv : v.Within depth) :
    ∀ {n : Node}, n.value? = some v → ∀ site, Datum.readWithin depth site n = pure v.datum := by
  induction hv with
  | text depth s => exact fun hn site => Datum.readWithin_text depth hn site
  | @list depth vs _ ih =>
    intro n hn site
    obtain ⟨mark, anchor, ns, rfl, hns⟩ := Node.eq_list_of_value? hn
    have hitems : Reading.items (Datum.readWithin depth) site 0 [] ns = pure (vs.map Value.datum) :=
      Reading.items_eq (hns.map fun v hv n hn path => ih v hv hn _) 0 []
    unfold Datum.readWithin Datum.readNode
    simp only [follow, pure_bind, hitems, Value.datum, Value.itemData_eq]
    rfl
  | @mapping depth es _ ih =>
    intro n hn site
    obtain ⟨mark, anchor, ns, rfl, hns⟩ := Node.eq_mapping_of_value? hn
    have hentries : Datum.readEntries (Datum.readWithin depth) site [] ns
        = pure (es.map fun e => (.text e.1, e.2.datum)) :=
      Datum.readEntries_eq (hns.map fun e he n hkey hvalue site =>
        ⟨Datum.readWithin_text depth hkey site, ih e he hvalue site⟩) []
    unfold Datum.readWithin Datum.readNode
    simp only [follow, pure_bind, hentries, Value.datum, Value.entryData_eq]
    rfl

/-! ## Reading what was written -/

/-- A reader takes what a writer has made of something back to it, wherever some more lists and
mappings may be entered. -/
def Undoes {α : Type} (read : Site → Node → Reading α) (write : α → Value) (depth : Nat) : Prop :=
  ∀ ⦃x n site⦄, Node.value? n = some (write x) → depth ≤ site.depth → read site n = pure x

theorem undoes_text (expected : String) : Undoes (Reading.text expected) .text 0 := by
  intro s n site hn _
  obtain ⟨mark, anchor, style, rfl, -⟩ := Node.eq_scalar_of_value? hn
  rfl

/-- A text that was written is not missing. -/
theorem Reading.option_text_eq (expected : String) {s : String} {n : Node} (site : Site)
    (hn : n.value? = some (.text s)) :
    Reading.option (Reading.text expected) site n = pure (some s) := by
  obtain ⟨mark, anchor, style, rfl, hs⟩ := Node.eq_scalar_of_value? hn
  have hthere := (Reading.resolve_eq_text hs).2
  cases style with
  | plain =>
    simp only [Reading.option, follow, pure_bind, hthere rfl]
    rfl
  | _ => rfl

theorem Reading.once_eq {α β : Type} {r : Reading α} {x : α} (name : String) (h : r = pure x) :
    Reading.once (none : Option β) name r = pure (some x) := by
  rw [h]
  rfl

section

variable {α : Type} {read : Site → Node → Reading α} {write : α → Value} {depth : Nat}

theorem Reading.entering_eq {mark : Mark} {site : Site} {r : Site → Reading α} {x : α}
    (hdepth : depth + 1 ≤ site.depth) (hr : ∀ site, depth ≤ site.depth → r site = pure x) :
    entering mark site r = pure x := by
  unfold entering
  split
  · omega
  · exact hr _ (by simp; omega)

theorem Undoes.list (h : Undoes read write depth) :
    Undoes (Reading.list read) (fun xs => .list (xs.map write)) (depth + 1) := by
  intro xs n site hn hdepth
  obtain ⟨mark, anchor, ns, rfl, hns⟩ := Node.eq_list_of_value? hn
  have hitems : ∀ site, depth ≤ site.depth → Reading.items read site 0 [] ns = pure xs := by
    intro site hsite
    refine Reading.items_eq ((List.forall₂_map_right_iff.1 hns).imp fun n x hn path => ?_) 0 []
    exact h hn hsite
  simp only [Reading.list, follow, pure_bind, Reading.entering_eq hdepth hitems]
  rfl

end

/-! ### Mappings -/

section

variable {σ : Type} {step : σ → String → Site → Node → Reading σ} {depth : Nat}

/-- Entries that were written take a reader from one state to another. -/
inductive Steps (step : σ → String → Site → Node → Reading σ) (depth : Nat) :
    σ → List (String × Value) → σ → Prop
  | nil (s : σ) : Steps step depth s [] s
  | cons {s s' s'' : σ} {key : String} {v : Value} {vs : List (String × Value)}
    (hstep : ∀ n site, n.value? = some v → depth ≤ site.depth → step s key site n = pure s')
    (hrest : Steps step depth s' vs s'') : Steps step depth s ((key, v) :: vs) s''

variable {s s' s'' : σ} {vs ws : List (String × Value)}

theorem Steps.append (h : Steps step depth s vs s') (h' : Steps step depth s' ws s'') :
    Steps step depth s (vs ++ ws) s'' := by
  induction h with
  | nil => exact h'
  | cons hstep _ ih => exact .cons hstep (ih h')

theorem Steps.entries_eq (h : Steps step depth s vs s') {es : List (Node × Node)} {site : Site}
    (hes : Node.EntriesHold es vs) (hdepth : depth ≤ site.depth) :
    Reading.entries step site s es = pure s' := by
  induction h generalizing es with
  | nil =>
    cases hes
    rfl
  | @cons s _ _ key v _ hstep _ ih =>
    obtain ⟨⟨k, n⟩, rest, ⟨hk, hn⟩, hrest, rfl⟩ := List.forall₂_cons_right_iff.1 hes
    have hsite : depth ≤ (valueSite site k).depth := by
      unfold valueSite
      split <;> exact hdepth
    simp only [Reading.entries, undoes_text _ hk (Nat.zero_le _), pure_bind,
      hstep n (valueSite site k) hn hsite, ih hrest]

/-- The state after all entries is what a mapping is made of. -/
theorem Steps.mapping_eq (h : Steps step depth s vs s') {α : Type} {finish : σ → Except Mismatch α}
    {x : α} (hfinish : finish s' = .ok x) (expected : String) {n : Node} {site : Site}
    (hn : n.value? = some (.mapping vs)) (hdepth : depth + 1 ≤ site.depth) :
    Reading.mapping expected s step finish site n = pure x := by
  obtain ⟨mark, anchor, es, rfl, hes⟩ := Node.eq_mapping_of_value? hn
  have hentries : ∀ site, depth ≤ site.depth → Reading.entries step site s es = pure s' :=
    fun site hsite => h.entries_eq hes hsite
  simp only [Reading.mapping, follow, pure_bind, Reading.entering_eq hdepth hentries, hfinish]
  rfl

end

end SchemaSieve.Yaml
