import Mathlib.Tactic
import SchemaSieve.Proofs.Filters

/-!
# How names find entries

Declared names ask for one entry each, and for one without a name if a declaration has none or no
declaration has one. `Resolves` says in which entry a name is looked up then; `findEntry?` looks
there (`findEntry?_entryNames`), whatever the entries hold.
-/

namespace SchemaSieve

/-- `Resolves declared name key`: among declared names, a name is looked up under a key, which is
the name itself where it is declared. A name that is not declared, or missing, is looked up under
the key without a name, which exists if it is declared or nothing else is. -/
inductive Resolves (declared : Option String → Prop) : Option String → Option String → Prop where
  | named {n : String} (h : declared (some n)) : Resolves declared (some n) (some n)
  | wildcard {name : Option String} (hname : ∀ n, name = some n → ¬ declared (some n))
      (h : (∀ n, ¬ declared (some n)) ∨ declared none) : Resolves declared name none

namespace Resolves

variable {declared : Option String → Prop} {name key : Option String}

theorem unique {key' : Option String} (h : Resolves declared name key)
    (h' : Resolves declared name key') : key = key' := by
  cases h with
  | named h =>
    cases h' with
    | named _ => rfl
    | wildcard hname _ => exact absurd h (hname _ rfl)
  | wildcard hname _ =>
    cases h' with
    | named h => exact absurd h (hname _ rfl)
    | wildcard _ _ => rfl

/-- Only a name itself is looked up under the key of that name. -/
theorem eq_some {n : String} (h : Resolves declared name (some n)) : name = some n := by
  cases h
  rfl

theorem congr {declared' : Option String → Prop} (h : ∀ k, declared k ↔ declared' k) :
    Resolves declared name key ↔ Resolves declared' name key := by
  have heq : declared = declared' := funext fun k => propext (h k)
  rw [heq]

end Resolves

theorem mem_entryNames {names : List (Option String)} {key : Option String} :
    key ∈ entryNames names ↔
      (∃ n, key = some n ∧ some n ∈ names) ∨
        key = none ∧ ((∀ n, some n ∉ names) ∨ none ∈ names) := by
  have hnames : ∀ n, n ∈ mergeNew [] (names.filterMap id) ↔ some n ∈ names := by
    intro n
    rw [mem_mergeNew]
    simp
  have hwild : ((mergeNew [] (names.filterMap id)).isEmpty || names.contains none) = true ↔
      (∀ n, some n ∉ names) ∨ none ∈ names := by
    rw [Bool.or_eq_true, List.isEmpty_iff, List.eq_nil_iff_forall_not_mem, List.contains_iff_mem]
    simp only [hnames]
  unfold entryNames
  simp only [List.mem_append, List.mem_map, hnames]
  constructor
  · rintro (⟨n, hn, rfl⟩ | h)
    · exact .inl ⟨n, rfl, hn⟩
    · split_ifs at h with hw
      · rw [List.mem_singleton] at h
        exact .inr ⟨h, hwild.1 hw⟩
      · simp at h
  · rintro (⟨n, rfl, hn⟩ | ⟨rfl, h⟩)
    · exact .inl ⟨n, hn, rfl⟩
    · right
      rw [if_pos (hwild.2 h)]
      exact List.mem_singleton_self _

theorem nodup_entryNames (declared : List (Option String)) : (entryNames declared).Nodup := by
  unfold entryNames
  have hnames : (mergeNew [] (declared.filterMap id)).Nodup := nodup_mergeNew List.nodup_nil _
  refine List.nodup_append.2 ⟨hnames.map (Option.some_injective _), ?_, ?_⟩
  · split_ifs <;> simp
  · rintro key hkey wild hwild rfl
    split_ifs at hwild <;> simp_all

/-- Which entries there are depends only on which names are declared, up to order. -/
theorem perm_entryNames {names names' : List (Option String)} (h : ∀ k, k ∈ names ↔ k ∈ names') :
    (entryNames names).Perm (entryNames names') :=
  (List.perm_ext_iff_of_nodup (nodup_entryNames _) (nodup_entryNames _)).2 fun key => by
    simp only [mem_entryNames, h]

/-- A name that was declared before asks for nothing new. -/
theorem entryNames_append_cons {key : Option String} {names names' : List (Option String)}
    (h : key ∈ names) : entryNames (names ++ key :: names') = entryNames (names ++ names') := by
  have hnames : mergeNew [] ((names ++ key :: names').filterMap id)
      = mergeNew [] ((names ++ names').filterMap id) := by
    rcases key with _ | n
    · simp
    · have hmem : n ∈ mergeNew [] (names.filterMap id) :=
        mem_mergeNew.2 (.inr (List.mem_filterMap.2 ⟨some n, h, rfl⟩))
      have hadd : addNew (mergeNew [] (names.filterMap id)) n = mergeNew [] (names.filterMap id) :=
        if_pos hmem
      rw [List.filterMap_append, List.filterMap_append, mergeNew_append, mergeNew_append]
      exact congrArg (fun l => mergeNew l (names'.filterMap id)) hadd
  have hwild : (names ++ key :: names').contains none = (names ++ names').contains none := by
    rw [Bool.eq_iff_iff]
    simp only [List.contains_iff_mem, List.mem_append, List.mem_cons]
    constructor
    · rintro (hn | rfl | hn)
      · exact .inl hn
      · exact .inl h
      · exact .inr hn
    · rintro (hn | hn)
      · exact .inl hn
      · exact .inr (.inr hn)
  unfold entryNames
  rw [hnames, hwild]

theorem any_eq_of_rel {α : Type} {R : α → α → Prop} {a b : Option α} {f : α → Bool}
    (h : Option.Rel R a b) (hf : ∀ x y, R x y → f x = f y) : a.any f = b.any f := by
  cases h with
  | none => rfl
  | some hxy => exact hf _ _ hxy

theorem isSome_eq_of_rel {α : Type} {R : α → α → Prop} {a b : Option α} (h : Option.Rel R a b) :
    a.isSome = b.isSome := by
  cases h <;> rfl

section

variable {α : Type} {nameOf : α → Option String} {entry : Option String → α}

/-- Among entries made of keys, the one that is found for a key is the one made of it. -/
theorem find?_map_entry (hentry : ∀ k, nameOf (entry k) = k) (key : Option String) :
    ∀ keys : List (Option String), ((keys.map entry).find? fun e => nameOf e == key)
      = if key ∈ keys then some (entry key) else none
  | [] => by simp
  | k :: keys => by
    rw [List.map_cons, List.find?_cons, hentry]
    by_cases hk : k = key
    · subst hk
      simp
    · have hne : (k == key) = false := by simpa using hk
      rw [hne, find?_map_entry hentry key keys]
      simp [Ne.symm hk]

/-- The entry that is found for a name is the one that the name resolves to. -/
theorem findEntry?_entryNames (hentry : ∀ k, nameOf (entry k) = k) {names : List (Option String)}
    {name : Option String} {e : α} :
    findEntry? nameOf name ((entryNames names).map entry) = some e ↔
      ∃ key, Resolves (· ∈ names) name key ∧ e = entry key := by
  have hnone : (((entryNames names).map entry).find? fun e => (nameOf e).isNone)
      = if none ∈ entryNames names then some (entry none) else none := by
    rw [← find?_map_entry hentry none]
    congr 1
    funext e
    cases nameOf e <;> rfl
  have hwild : ∀ {k : Option String}, (∀ n, k = some n → some n ∉ names) →
      ((if none ∈ entryNames names then some (entry none) else none) = some e ↔
        ∃ key, Resolves (· ∈ names) k key ∧ e = entry key) := by
    intro k hk
    have hmem : none ∈ entryNames names ↔ (∀ n, some n ∉ names) ∨ none ∈ names := by
      simp [mem_entryNames]
    constructor
    · intro h
      split_ifs at h with hm
      cases h
      exact ⟨none, .wildcard hk (hmem.1 hm), rfl⟩
    · rintro ⟨key, hr, rfl⟩
      cases hr with
      | named h => exact absurd h (hk _ rfl)
      | wildcard _ h => rw [if_pos (hmem.2 h)]
  unfold findEntry?
  rw [hnone]
  rcases name with _ | n
  · exact hwild (by simp)
  · rw [Option.bind_some, find?_map_entry hentry]
    by_cases hn : some n ∈ names
    · have hin : some n ∈ entryNames names := mem_entryNames.2 (.inl ⟨n, rfl, hn⟩)
      rw [if_pos hin, Option.orElse_eq_orElse, Option.orElse_eq_or, Option.some_or,
        Option.some.injEq]
      constructor
      · rintro rfl
        exact ⟨some n, .named hn, rfl⟩
      · rintro ⟨key, hr, rfl⟩
        rw [hr.unique (.named hn)]
    · have hout : some n ∉ entryNames names := by
        rw [mem_entryNames]
        rintro (⟨m, hm, hmem⟩ | ⟨h, -⟩)
        · cases hm
          exact hn hmem
        · cases h
      rw [if_neg hout, Option.orElse_eq_orElse, Option.orElse_eq_or, Option.none_or]
      exact hwild (by rintro m ⟨⟩; exact hn)

/-- Where the same names are declared, a name finds entries of the key it resolves to in both. -/
theorem findEntry?_rel {R : α → α → Prop} {entry' : Option String → α}
    (hentry : ∀ k, nameOf (entry k) = k) (hentry' : ∀ k, nameOf (entry' k) = k)
    {names names' : List (Option String)} (hnames : ∀ k, k ∈ names ↔ k ∈ names')
    {name : Option String} (h : ∀ key, Resolves (· ∈ names) name key → R (entry key) (entry' key)) :
    Option.Rel R ( findEntry? nameOf name ((entryNames names).map entry))
      ( findEntry? nameOf name ((entryNames names').map entry')) := by
  rcases hfind : findEntry? nameOf name ((entryNames names).map entry) with _ | e
  · rcases hfind' : findEntry? nameOf name ((entryNames names').map entry') with _ | e'
    · exact .none
    · obtain ⟨key, hkey, -⟩ := (findEntry?_entryNames hentry').1 hfind'
      have hfound := (findEntry?_entryNames hentry).2 ⟨key, (Resolves.congr hnames).2 hkey, rfl⟩
      rw [hfind] at hfound
      cases hfound
  · obtain ⟨key, hkey, rfl⟩ := (findEntry?_entryNames hentry).1 hfind
    have hfound := (findEntry?_entryNames hentry').2 ⟨key, (Resolves.congr hnames).1 hkey, rfl⟩
    rw [hfound]
    exact .some (h key hkey)

end

end SchemaSieve
