import Mathlib.Tactic
import SchemaSieve.Regex.Basic

/-!
# Walks find what matches

Walking through an expression carries the set of places that are reached, and these are the places
up to which the expression matches (`testBit_run`). A repetition without a greatest count is walked
once more than the text has characters: a step over nothing can be left out, so that no match takes
more steps than that (`MatchesTimes.shorten`).
-/

namespace SchemaSieve.Regex

open Text (CharSet)

/-- Whether each repetition allows the copies that it asks for. -/
def Ranged : Regex → Prop
  | empty | char _ | look _ => True
  | seq a b | alt a b => a.Ranged ∧ b.Ranged
  | repeated min max r => (∀ m ∈ max, min ≤ m) ∧ r.Ranged

/-! ## Matches -/

section

variable {text : List Char} {r : Regex} {i j k n m : Nat}

mutual

theorem Matches.le {r : Regex} {i j : Nat} : Matches text r i j → i ≤ j
  | .empty _ => le_rfl
  | .char _ _ => Nat.le_succ _
  | .look _ => le_rfl
  | .seq ha hb => ha.le.trans hb.le
  | .left h => h.le
  | .right h => h.le
  | .repeated _ _ h => h.le

theorem MatchesTimes.le {r : Regex} {n i j : Nat} : MatchesTimes text r n i j → i ≤ j
  | .none _ _ => le_rfl
  | .more h hn => h.le.trans hn.le

end

mutual

theorem Matches.le_length {r : Regex} {i j : Nat} :
    Matches text r i j → i ≤ text.length → j ≤ text.length
  | .empty _, hi => hi
  | .char h _, _ => (List.getElem?_eq_some_iff.1 h).1
  | .look _, hi => hi
  | .seq ha hb, hi => hb.le_length (ha.le_length hi)
  | .left h, hi => h.le_length hi
  | .right h, hi => h.le_length hi
  | .repeated _ _ h, hi => h.le_length hi

theorem MatchesTimes.le_length {r : Regex} {n i j : Nat} :
    MatchesTimes text r n i j → i ≤ text.length → j ≤ text.length
  | .none _ _, hi => hi
  | .more h hn, hi => hn.le_length (h.le_length hi)

end

theorem MatchesTimes.append (h : MatchesTimes text r n i j) (h' : MatchesTimes text r m j k) :
    MatchesTimes text r (n + m) i k := by
  induction n generalizing i with
  | zero =>
    cases h
    rwa [Nat.zero_add]
  | succ n ih =>
    cases h with
    | more h hn =>
      rw [Nat.succ_add]
      exact .more h (ih hn)

theorem MatchesTimes.split (h : MatchesTimes text r (n + m) i k) :
    ∃ j, MatchesTimes text r n i j ∧ MatchesTimes text r m j k := by
  induction n generalizing i with
  | zero => exact ⟨i, .none r i, by rwa [Nat.zero_add] at h⟩
  | succ n ih =>
    rw [Nat.succ_add] at h
    cases h with
    | more h hn =>
      obtain ⟨j, hnj, hj⟩ := ih hn
      exact ⟨j, .more h hnj, hj⟩

/-- Matches in a row lead to the same place without those that match nothing. -/
theorem MatchesTimes.shorten (h : MatchesTimes text r n i j) :
    ∃ n', n' ≤ j - i ∧ MatchesTimes text r n' i j := by
  induction n generalizing i with
  | zero =>
    cases h
    exact ⟨0, Nat.zero_le _, .none r _⟩
  | succ n ih =>
    cases h with
    | more h hn =>
      rename_i k
      obtain ⟨n', hle, hn'⟩ := ih hn
      rcases h.le.eq_or_lt with rfl | hlt
      · exact ⟨n', hle, hn'⟩
      · have hkj := hn'.le
        exact ⟨n' + 1, by omega, .more h hn'⟩

end

/-! ## Sets of places -/

theorem testBit_places (p : Nat → Bool) (n i : Nat) :
    (places p n).testBit i = (decide (i < n) && p i) := by
  induction n with
  | zero => simp [places]
  | succ n ih =>
    rw [places, Nat.testBit_or, ih]
    rcases lt_trichotomy i n with hlt | heq | hgt
    · have hbit : (if p n then 1 <<< n else 0).testBit i = false := by
        split_ifs <;> simp [Nat.testBit_shiftLeft, hlt]
      simp [hbit, hlt, Nat.lt_succ_of_lt hlt]
    · rw [heq]
      cases hp : p n <;> simp [Nat.testBit_shiftLeft]
    · have hbit : (if p n then 1 <<< n else 0).testBit i = false := by
        have hne : n ≠ i := hgt.ne
        split_ifs
        · rw [Nat.one_shiftLeft, Nat.testBit_two_pow, decide_eq_false hne]
        · exact Nat.zero_testBit i
      have h1 : ¬ i < n := by omega
      have h2 : ¬ i < n + 1 := by omega
      simp [hbit, h1, h2]

theorem iterate_eq (f : Nat → Nat) (n m : Nat) : iterate f n m = f^[n] m := by
  induction n generalizing m with
  | zero => rfl
  | succ n ih =>
    rw [iterate]
    split_ifs with h
    · exact (Function.iterate_fixed h _).symm
    · rw [ih, Function.iterate_succ_apply]

section

variable {text : List Char} {r : Regex} {f : Nat → Nat}

/-- Whether a set holds places of a text alone. -/
def Within (text : List Char) (s : Nat) : Prop := ∀ i, s.testBit i = true → i ≤ text.length

/-- Whether a function takes places to those up to which an expression matches from them. -/
def Follows (text : List Char) (r : Regex) (f : Nat → Nat) : Prop :=
  ∀ s, Within text s → ∀ j, (f s).testBit j = true ↔
    ∃ i, s.testBit i = true ∧ Matches text r i j

theorem Follows.within (hf : Follows text r f) {s : Nat} (hs : Within text s) :
    Within text (f s) := by
  intro j hj
  obtain ⟨i, hi, h⟩ := (hf s hs j).1 hj
  exact h.le_length (hs i hi)

/-- Following an expression `n` times leads over `n` matches. -/
theorem Follows.testBit_iterate (hf : Follows text r f) (n : Nat) {s : Nat}
    (hs : Within text s) (j : Nat) :
    (f^[n] s).testBit j = true ↔ ∃ i, s.testBit i = true ∧ MatchesTimes text r n i j := by
  induction n generalizing s with
  | zero =>
    constructor
    · intro h
      exact ⟨j, h, .none r j⟩
    · rintro ⟨i, hi, h⟩
      cases h
      exact hi
  | succ n ih =>
    rw [Function.iterate_succ_apply, ih (hf.within hs)]
    constructor
    · rintro ⟨k, hk, hn⟩
      obtain ⟨i, hi, h⟩ := (hf s hs k).1 hk
      exact ⟨i, hi, .more h hn⟩
    · rintro ⟨i, hi, h⟩
      cases h with
      | more h hn => exact ⟨_, (hf s hs _).2 ⟨i, hi, h⟩, hn⟩

/-- Adding what follows `n` times leads over at most `n` matches. -/
theorem Follows.testBit_iterate_or (hf : Follows text r f) (n : Nat) {s : Nat}
    (hs : Within text s) (j : Nat) :
    ((fun s => s ||| f s)^[n] s).testBit j = true ↔
      ∃ k ≤ n, ∃ i, s.testBit i = true ∧ MatchesTimes text r k i j := by
  induction n generalizing s with
  | zero =>
    constructor
    · intro h
      exact ⟨0, le_rfl, j, h, .none r j⟩
    · rintro ⟨k, hk, i, hi, h⟩
      obtain rfl := Nat.le_zero.1 hk
      cases h
      exact hi
  | succ n ih =>
    have hor : Within text (s ||| f s) := by
      intro i hi
      rw [Nat.testBit_or, Bool.or_eq_true] at hi
      exact hi.elim (hs i) (hf.within hs i)
    rw [Function.iterate_succ_apply, ih hor]
    constructor
    · rintro ⟨k, hk, i, hi, h⟩
      rw [Nat.testBit_or, Bool.or_eq_true] at hi
      rcases hi with hi | hi
      · exact ⟨k, by omega, i, hi, h⟩
      · obtain ⟨i', hi', h'⟩ := (hf s hs i).1 hi
        exact ⟨k + 1, by omega, i', hi', .more h' h⟩
    · rintro ⟨k, hk, i, hi, h⟩
      rcases k with _ | k
      · exact ⟨0, Nat.zero_le _, i, by simp [hi], h⟩
      · cases h with
        | more h hn =>
          rename_i i'
          have hi' : (s ||| f s).testBit i' = true := by
            rw [Nat.testBit_or, (hf s hs i').2 ⟨i, hi, h⟩, Bool.or_true]
          exact ⟨k, by omega, i', hi', hn⟩

end

/-! ## Walks -/

section

variable {text : List Char} {f g : Nat → Nat}

theorem follows_empty (text : List Char) : Follows text empty id := by
  intro s _ j
  constructor
  · intro h
    exact ⟨j, h, .empty j⟩
  · rintro ⟨i, hi, h⟩
    cases h
    exact hi

theorem follows_char (text : List Char) (set : CharSet) :
    Follows text (char set) (((char set).on text.toArray).run text.length) := by
  intro s _ j
  rcases j with _ | j
  · simp only [on, Walk.run, Nat.testBit_shiftLeft]
    constructor
    · intro h
      simp at h
    · rintro ⟨i, -, h⟩
      cases h
  · simp only [on, Walk.run, Nat.testBit_shiftLeft, Nat.testBit_and, testBit_places]
    constructor
    · intro h
      simp only [ge_iff_le, Nat.le_add_left, decide_true, Nat.add_sub_cancel, Bool.true_and,
        Bool.and_eq_true, List.getElem?_toArray, Option.any_eq_true] at h
      obtain ⟨hs, -, c, hc, hset⟩ := h
      exact ⟨j, hs, .char hc hset⟩
    · rintro ⟨i, hi, h⟩
      cases h with
      | char hc hset =>
        obtain ⟨hlt, rfl⟩ := List.getElem?_eq_some_iff.1 hc
        simp [hi, hset, hlt]

theorem follows_look (text : List Char) (l : Look) :
    Follows text (look l) (((look l).on text.toArray).run text.length) := by
  intro s hs j
  simp only [on, Walk.run, Nat.testBit_and, testBit_places, Bool.and_eq_true,
    List.getElem?_toArray, List.size_toArray, decide_eq_true_eq]
  constructor
  · rintro ⟨hj, -, hl⟩
    exact ⟨j, hj, .look hl⟩
  · rintro ⟨i, hi, h⟩
    cases h with
    | look hl => exact ⟨hi, Nat.lt_succ_of_le (hs _ hi), hl⟩

theorem Follows.seq {a b : Regex} (ha : Follows text a f) (hb : Follows text b g) :
    Follows text (seq a b) fun s => g (f s) := by
  intro s hs j
  rw [hb _ (ha.within hs)]
  constructor
  · rintro ⟨k, hk, h⟩
    obtain ⟨i, hi, h'⟩ := (ha s hs k).1 hk
    exact ⟨i, hi, .seq h' h⟩
  · rintro ⟨i, hi, h⟩
    cases h with
    | seq h h' => exact ⟨_, (ha s hs _).2 ⟨i, hi, h⟩, h'⟩

theorem Follows.alt {a b : Regex} (ha : Follows text a f) (hb : Follows text b g) :
    Follows text (alt a b) fun s => f s ||| g s := by
  intro s hs j
  rw [Nat.testBit_or, Bool.or_eq_true, ha s hs, hb s hs]
  constructor
  · rintro (⟨i, hi, h⟩ | ⟨i, hi, h⟩)
    · exact ⟨i, hi, .left h⟩
    · exact ⟨i, hi, .right h⟩
  · rintro ⟨i, hi, h⟩
    cases h with
    | left h => exact .inl ⟨i, hi, h⟩
    | right h => exact .inr ⟨i, hi, h⟩

/-- First as many matches as a repetition asks for, then at most as many as it allows beyond that,
or as the text has room for. -/
theorem Follows.repeated {body : Regex} (hbody : Follows text body f) {min : Nat}
    {max : Option Nat} (hmax : ∀ m ∈ max, min ≤ m) :
    Follows text (repeated min max body) fun s =>
      (fun s => s ||| f s)^[(max.map (· - min)).getD (text.length + 1)] (f^[min] s) := by
  intro s hs j
  have hmin : Within text (f^[min] s) := by
    intro k hk
    obtain ⟨i, hi, h⟩ := (hbody.testBit_iterate min hs k).1 hk
    exact h.le_length (hs i hi)
  rw [hbody.testBit_iterate_or _ hmin]
  simp only [hbody.testBit_iterate min hs]
  constructor
  · rintro ⟨k, hk, i, ⟨i', hi', h'⟩, h⟩
    refine ⟨i', hi', .repeated (Nat.le_add_right min k) ?_ (h'.append h)⟩
    intro m hm
    have hle := hmax m hm
    obtain rfl := Option.mem_def.1 hm
    simp only [Option.map_some, Option.getD_some] at hk
    omega
  · rintro ⟨i, hi, h⟩
    cases h with
    | repeated hmin hbound h =>
      obtain ⟨k, rfl⟩ := Nat.exists_eq_add_of_le hmin
      obtain ⟨i', h', hk⟩ := h.split
      rcases max with _ | m
      · obtain ⟨k', hk', hshort⟩ := hk.shorten
        have hj := hshort.le_length (h'.le_length (hs i hi))
        refine ⟨k', ?_, i', ⟨i, hi, h'⟩, hshort⟩
        simp only [Option.map_none, Option.getD_none]
        omega
      · have hle := hbound m rfl
        refine ⟨k, ?_, i', ⟨i, hi, h'⟩, hk⟩
        simp only [Option.map_some, Option.getD_some]
        omega

end

/-- Walking through an expression reaches the places up to which it matches. -/
theorem follows_run (text : List Char) :
    ∀ {r : Regex}, r.Ranged → Follows text r ((r.on text.toArray).run text.length)
  | .empty, _ => follows_empty text
  | .char set, _ => follows_char text set
  | .look l, _ => follows_look text l
  | .seq _ _, hr => (follows_run text hr.1).seq (follows_run text hr.2)
  | .alt _ _, hr => (follows_run text hr.1).alt (follows_run text hr.2)
  | .repeated min max body, hr => by
    have hrun : ((repeated min max body).on text.toArray).run text.length = fun s =>
        (fun s => s ||| (body.on text.toArray).run text.length s)^[(max.map (· - min)).getD
          (text.length + 1)] (((body.on text.toArray).run text.length)^[min] s) := by
      funext s
      simp only [on, Walk.run, iterate_eq]
    rw [hrun]
    exact (follows_run text hr.2).repeated hr.1

/-- An expression is found in a text exactly if it matches some stretch of it. -/
theorem isMatch_iff {r : Regex} (hr : r.Ranged) {text : String} :
    r.isMatch text = true ↔
      ∃ i j, i ≤ text.toList.length ∧ r.Matches text.toList i j := by
  have hall : ∀ i, (2 ^ (text.toList.length + 1) - 1).testBit i = true ↔
      i ≤ text.toList.length := by
    intro i
    rw [Nat.testBit_two_pow_sub_one, decide_eq_true_eq, Nat.lt_succ_iff]
  have hrun := follows_run text.toList hr _ fun i hi => (hall i).1 hi
  have hne : r.isMatch text = true ↔ ((r.on text.toList.toArray).run text.toList.length
      (2 ^ (text.toList.length + 1) - 1)) ≠ 0 := by
    simp only [isMatch, List.size_toArray, Nat.pow_eq, bne_iff_ne]
  rw [hne]
  constructor
  · intro h
    obtain ⟨j, hj⟩ := Nat.exists_testBit_of_ne_zero h
    obtain ⟨i, hi, hm⟩ := (hrun j).1 hj
    exact ⟨i, j, (hall i).1 hi, hm⟩
  · rintro ⟨i, j, hi, hm⟩ h
    have hj := (hrun j).2 ⟨i, (hall i).2 hi, hm⟩
    rw [h, Nat.zero_testBit] at hj
    cases hj

/-! ## Exact texts -/

/-- The expression of given characters in a row. -/
def literal : List Char → Regex
  | [] => .empty
  | [c] => .char (.single c.toNat)
  | c :: cs => .seq (.char (.single c.toNat)) (literal cs)

/-- The expression of one text between anchors. -/
def anchored (cs : List Char) : Regex := .seq (.look .start) (.seq (literal cs) (.look .stop))

theorem ranged_literal : ∀ cs : List Char, (literal cs).Ranged
  | [] => trivial
  | [_] => trivial
  | _ :: c :: cs => ⟨trivial, ranged_literal (c :: cs)⟩

section

variable {text : List Char} {i j : Nat}

theorem matches_char_single {c : Char} :
    Matches text (.char (.single c.toNat)) i j ↔ text[i]? = some c ∧ j = i + 1 := by
  have hsingle : ∀ d : Char, (Text.CharSet.single c.toNat).contains d.toNat = true ↔ d = c := by
    intro d
    simp only [Text.CharSet.contains, Text.CharSet.single, List.any_cons, List.any_nil,
      Bool.or_false, Bool.and_eq_true, decide_eq_true_eq]
    constructor
    · rintro ⟨hle, hge⟩
      exact Char.toNat_inj.1 (le_antisymm hge hle)
    · rintro rfl
      exact ⟨le_rfl, le_rfl⟩
  constructor
  · intro h
    cases h with
    | char hc hset => exact ⟨(hsingle _).1 hset ▸ hc, rfl⟩
  · rintro ⟨hc, rfl⟩
    exact .char hc ((hsingle c).2 rfl)

theorem drop_eq_cons_iff {c : Char} {cs : List Char} :
    text.drop i = c :: cs ↔ text[i]? = some c ∧ text.drop (i + 1) = cs := by
  rw [← List.head?_drop, ← List.tail_drop]
  cases text.drop i <;> simp

/-- A literal expression matches where its characters stand. -/
theorem matches_literal (cs : List Char) : Matches text (literal cs) i j ↔
    ∃ rest, text.drop i = cs ++ rest ∧ j = i + cs.length := by
  induction cs generalizing i with
  | nil =>
    constructor
    · intro h
      cases h
      exact ⟨_, rfl, rfl⟩
    · rintro ⟨_, -, rfl⟩
      exact .empty _
  | cons c cs ih =>
    rcases cs with _ | ⟨d, cs⟩
    · rw [literal, matches_char_single]
      simp [drop_eq_cons_iff]
    · constructor
      · intro h
        cases h with
        | seq hc hcs =>
          obtain ⟨hget, rfl⟩ := matches_char_single.1 hc
          obtain ⟨rest, hdrop, rfl⟩ := ih.1 hcs
          exact ⟨rest, drop_eq_cons_iff.2 ⟨hget, hdrop⟩, by simp only [List.length_cons]; omega⟩
      · rintro ⟨rest, hdrop, rfl⟩
        obtain ⟨hget, hdrop⟩ := drop_eq_cons_iff.1 hdrop
        exact .seq (matches_char_single.2 ⟨hget, rfl⟩)
          (ih.2 ⟨rest, hdrop, by simp only [List.length_cons]; omega⟩)

/-- The start of a text is the only place in it without a character before. -/
theorem holds_start_iff (hi : i ≤ text.length) {after : Option Char} :
    Look.start.holds (before? text i) after = true ↔ i = 0 := by
  rw [Look.holds, before?]
  split_ifs with h
  · simp [h]
  · simp only [Option.isNone_iff_eq_none, List.getElem?_eq_none_iff]
    omega

end

/-- Between anchors, a literal expression matches its own text alone. -/
theorem isMatch_anchored {cs : List Char} {text : String} :
    (anchored cs).isMatch text = true ↔ text.toList = cs := by
  have hr : (anchored cs).Ranged := ⟨trivial, ranged_literal cs, trivial⟩
  rw [isMatch_iff hr]
  constructor
  · rintro ⟨i, j, hi, h⟩
    cases h with
    | seq hstart h =>
      cases h with
      | seq hcs hstop =>
        cases hstart with
        | look hstart =>
          cases hstop with
          | look hstop =>
            obtain rfl := (holds_start_iff hi).1 hstart
            obtain ⟨rest, hdrop, rfl⟩ := (matches_literal cs).1 hcs
            rw [List.drop_zero] at hdrop
            rw [hdrop, Look.holds, Option.isNone_iff_eq_none, List.getElem?_eq_none_iff,
              List.length_append] at hstop
            obtain rfl := List.eq_nil_of_length_eq_zero (l := rest) (by omega)
            rw [hdrop, List.append_nil]
  · rintro rfl
    refine ⟨0, text.toList.length, Nat.zero_le _, .seq (.look rfl) (.seq ?_ (.look ?_))⟩
    · exact (matches_literal _).2 ⟨[], by simp, by simp⟩
    · simp [Look.holds]

end SchemaSieve.Regex
