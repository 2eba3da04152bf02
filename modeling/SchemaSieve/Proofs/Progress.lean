import Mathlib.Tactic
import SchemaSieve.Proofs.TrailingClasses
import SchemaSieve.Proofs.TrailingGroups

/-!
# Reading goes forward

What is left of a pattern after a part of it was read is an end of what was left before, without
the first character at least (`Parse.length_lt_of_step`). So the steps that a pattern is given are
enough to read all of it.
-/

namespace SchemaSieve.Regex

variable {c after : Cursor} {verbose : Bool}

/-! ## Cursors -/

namespace Cursor

theorem next_suffix (c : Cursor) : c.next.rest <:+ c.rest := by
  rw [rest_next]
  exact List.tail_suffix _

theorem step_suffix_next (verbose : Bool) (c : Cursor) : (c.step verbose).rest <:+ c.next.rest :=
  c.next.skipSpace_suffix verbose

theorem step_suffix (verbose : Bool) (c : Cursor) : (c.step verbose).rest <:+ c.rest :=
  (c.step_suffix_next verbose).trans c.next_suffix

theorem past?_suffix : ∀ {xs : List Char} {c after : Cursor}, c.past? xs = some after →
    after.rest <:+ c.rest
  | [], _, _, h => by
    obtain rfl := Option.some.inj h
    exact List.suffix_rfl
  | x :: xs, c, after, h => by
    rw [past?] at h
    split_ifs at h
    exact (past?_suffix h).trans c.next_suffix

theorem takeRunWithin_suffix {p : Char → Bool} :
    ∀ (fuel : Nat) (c : Cursor), (c.takeRunWithin verbose p fuel).2.rest <:+ c.rest
  | 0, _ => List.suffix_rfl
  | fuel + 1, c => by
    rcases hx : c.peek? with _ | x
    · rw [takeRunWithin, hx]
    · rw [takeRunWithin_of_peek? hx]
      split_ifs
      · exact (takeRunWithin_suffix fuel _).trans (c.step_suffix _)
      · exact List.suffix_rfl

theorem takeRun_suffix (p : Char → Bool) (c : Cursor) : (c.takeRun verbose p).2.rest <:+ c.rest :=
  takeRunWithin_suffix _ c

end Cursor

/-! ## Escapes -/

theorem readHexDigits_suffix :
    ∀ (count : Nat) {c after : Cursor} {digits : List Char},
      readHexDigits verbose count c = .ok (digits, after) → after.rest <:+ c.rest
  | 0, _, _, _, h => by
    obtain ⟨-, rfl⟩ := Prod.mk.inj (Except.ok.inj h)
    exact List.suffix_rfl
  | count + 1, c, after, digits, h => by
    rcases hx : c.peek? with _ | x
    · rw [readHexDigits, hx] at h
      cases h
    rw [readHexDigits_succ hx] at h
    split_ifs at h
    obtain ⟨⟨ds, after⟩, hds, heq⟩ := map_eq_ok_iff.1 h
    obtain ⟨-, rfl⟩ := Prod.mk.inj heq
    exact (readHexDigits_suffix count hds).trans (c.step_suffix _)

theorem readHex_suffix {start : Position} {letter : Char} {l : Literal}
    (h : readHex verbose start letter c = .ok (l, after)) : after.rest <:+ c.rest := by
  simp only [readHex, guard_eq_ok_iff] at h
  obtain ⟨-, h⟩ := h
  have hstep := c.step_suffix verbose
  split at h
  · simp only [guard_eq_ok_iff] at h
    obtain ⟨-, -, -, h⟩ := h
    split at h
    · cases h
    · obtain ⟨-, rfl⟩ := Prod.mk.inj (pure_eq_ok_iff.1 h)
      exact (Cursor.step_suffix _ _).trans <| (Cursor.takeRun_suffix _ _).trans <|
        (Cursor.step_suffix _ _).trans hstep
  · obtain ⟨⟨digits, stop⟩, hdigits, h⟩ := bind_eq_ok_iff.1 h
    dsimp only at h
    split at h
    · cases h
    · obtain ⟨-, rfl⟩ := Prod.mk.inj (pure_eq_ok_iff.1 h)
      exact (readHexDigits_suffix _ hdigits).trans hstep

theorem readProperty_suffix {start : Position} {negated : Bool} {p : Primitive}
    (h : readProperty verbose start negated c = .ok (p, after)) : after.rest <:+ c.rest := by
  have hstep := c.step_suffix verbose
  have hstep' := (c.step verbose).step_suffix verbose
  rcases hx : (c.step verbose).peek? with _ | x
  · simp only [readProperty, hx] at h
    cases h
  by_cases hbrace : x = '\x7b'
  · subst hbrace
    rw [readProperty_braced hx] at h
    dsimp only at h
    split_ifs at h
    obtain ⟨-, rfl⟩ := Prod.mk.inj (Except.ok.inj h)
    exact (Cursor.next_suffix _).trans <| (Cursor.takeRun_suffix _ _).trans (hstep'.trans hstep)
  by_cases hslash : x = '\\'
  · subst hslash
    simp only [readProperty, hx] at h
    cases h
  · rw [readProperty_letter hx hbrace hslash] at h
    obtain ⟨-, rfl⟩ := Prod.mk.inj (Except.ok.inj h)
    exact hstep'.trans hstep

theorem readBoundary_suffix {start : Position} {p : Primitive}
    (h : readBoundary verbose start c = .ok (p, after)) : after.rest <:+ c.rest := by
  rcases hbrace : c.sees '\x7b' with _ | _
  · rw [readBoundary_plain hbrace] at h
    obtain ⟨-, rfl⟩ := Prod.mk.inj (Except.ok.inj h)
    exact List.suffix_rfl
  rcases hx : (c.step verbose).peek? with _ | x
  · simp only [readBoundary, hbrace, hx] at h
    cases h
  rw [readBoundary_of_peek? hbrace hx] at h
  dsimp only at h
  split_ifs at h
  · split at h
    · cases h
    · obtain ⟨-, rfl⟩ := Prod.mk.inj (Except.ok.inj h)
      exact (Cursor.next_suffix _).trans <| (Cursor.takeRun_suffix _ _).trans (c.step_suffix _)
  · obtain ⟨-, rfl⟩ := Prod.mk.inj (Except.ok.inj h)
    exact List.suffix_rfl

theorem readEscape_suffix {p : Primitive} (h : readEscape verbose c = .ok (p, after)) :
    after.rest <:+ c.next.rest := by
  rcases hx : c.next.peek? with _ | x
  · simp only [readEscape, hx] at h
    cases h
  rw [readEscape_of_peek? hx] at h
  split_ifs at h
  · obtain ⟨⟨l, after⟩, hl, heq⟩ := map_eq_ok_iff.1 h
    obtain ⟨-, rfl⟩ := Prod.mk.inj heq
    exact readHex_suffix hl
  · exact readProperty_suffix h
  · exact (readBoundary_suffix h).trans (Cursor.next_suffix _)
  · obtain ⟨-, rfl⟩ := Prod.mk.inj (Except.ok.inj h)
    exact Cursor.next_suffix _
  · split at h
    · obtain ⟨-, rfl⟩ := Prod.mk.inj (Except.ok.inj h)
      exact Cursor.next_suffix _
    · cases h

/-! ## Classes -/

theorem readDashes_suffix {start : Position} :
    ∀ (fuel : Nat) {run read : ItemRun} {c after : Cursor},
      readDashes verbose start fuel run c = .ok (read, after) → after.rest <:+ c.rest
  | 0, _, _, _, _, h => by
    obtain ⟨-, rfl⟩ := Prod.mk.inj (Except.ok.inj h)
    exact List.suffix_rfl
  | fuel + 1, run, read, c, after, h => by
    simp only [readDashes] at h
    split_ifs at h
    · exact (readDashes_suffix fuel h).trans (c.step_suffix _)
    · obtain ⟨-, rfl⟩ := Prod.mk.inj (Except.ok.inj h)
      exact List.suffix_rfl

theorem openClass_suffix {span : Span} {negated : Bool} {run : ItemRun}
    (h : openClass verbose c = .ok (span, negated, run, after)) : after.rest <:+ c.next.rest := by
  obtain ⟨hfirst, hbody, dashes, stop, hdashes⟩ := exists_of_openClass h
  have hclass : (classBody verbose c).rest <:+ c.next.rest := by
    unfold classBody
    split_ifs
    · exact (Cursor.step_suffix _ _).trans (c.step_suffix_next _)
    · exact c.step_suffix_next _
  have hstop := (readDashes_suffix _ hdashes).trans hclass
  rw [openClass_of_readDashes hfirst hbody hdashes] at h
  split_ifs at h
  · obtain ⟨-, -, -, rfl⟩ := by simpa only [Except.ok.injEq, Prod.mk.injEq] using h
    exact (Cursor.step_suffix _ _).trans hstop
  · obtain ⟨-, -, -, rfl⟩ := by simpa only [Except.ok.injEq, Prod.mk.injEq] using h
    exact hstop

theorem asciiItem?_suffix {item : ClassSet} (h : asciiItem? c = some (item, after)) :
    after.rest <:+ c.rest := by
  simp only [asciiItem?, bind, Option.bind_eq_some_iff] at h
  obtain ⟨colon, hcolon, after, hafter, kind, -, h⟩ := h
  obtain ⟨-, rfl⟩ := Prod.mk.inj (Option.some.inj h)
  refine (Cursor.past?_suffix hafter).trans <| (Cursor.takeRun_suffix _ _).trans ?_
  split_ifs
  · exact (Cursor.next_suffix _).trans (Cursor.past?_suffix hcolon)
  · exact Cursor.past?_suffix hcolon

theorem readClassPrimitive_suffix {p : Primitive}
    (h : readClassPrimitive verbose c = .ok (p, after)) : after.rest <:+ c.rest := by
  rcases hx : c.peek? with _ | x
  · rw [readClassPrimitive, hx] at h
    cases h
  by_cases hslash : x = '\\'
  · subst hslash
    rw [readClassPrimitive, hx] at h
    exact (readEscape_suffix h).trans c.next_suffix
  · rw [readClassPrimitive_plain hx hslash] at h
    obtain ⟨-, rfl⟩ := Prod.mk.inj (Except.ok.inj h)
    exact c.next_suffix

theorem readClassItem_suffix {unclosed : Fault} {item : ClassSet}
    (h : readClassItem verbose unclosed c = .ok (item, after)) : after.rest <:+ c.rest := by
  obtain ⟨⟨first, c₀⟩, hfirst, h⟩ := bind_eq_ok_iff.1 h
  simp only [guard_eq_ok_iff] at h
  obtain ⟨-, h⟩ := h
  have hspace := (c₀.skipSpace_suffix verbose).trans (readClassPrimitive_suffix hfirst)
  split_ifs at h
  · obtain ⟨set, -, h⟩ := bind_eq_ok_iff.1 h
    obtain ⟨-, rfl⟩ := Prod.mk.inj (pure_eq_ok_iff.1 h)
    exact hspace
  · cases h
  · obtain ⟨⟨last, c₁⟩, hlast, h⟩ := bind_eq_ok_iff.1 h
    obtain ⟨lo, -, h⟩ := bind_eq_ok_iff.1 h
    obtain ⟨hi, -, h⟩ := bind_eq_ok_iff.1 h
    simp only [guard_eq_ok_iff] at h
    obtain ⟨-, rfl⟩ := Prod.mk.inj (pure_eq_ok_iff.1 h.2)
    exact (readClassPrimitive_suffix hlast).trans <|
      (Cursor.step_suffix _ _).trans hspace

theorem eq_some_or_of_orElse {α : Type} {x? y? : Option α} {v : α} (h : (x? <|> y?) = some v) :
    x? = some v ∨ y? = some v := by
  cases x? with
  | none => exact .inr h
  | some x => exact .inl h

theorem setOperation?_suffix {op : SetOperation} (h : setOperation? c = some (op, after)) :
    after.rest <:+ c.rest := by
  have hpast {op' : SetOperation} {xs : List Char}
      (h : (c.past? xs).map (op', ·) = some (op, after)) : after.rest <:+ c.rest := by
    obtain ⟨place, hplace, heq⟩ := Option.map_eq_some_iff.1 h
    obtain ⟨-, rfl⟩ := Prod.mk.inj heq
    exact Cursor.past?_suffix hplace
  rcases eq_some_or_of_orElse h with h | h
  · exact hpast h
  · rcases eq_some_or_of_orElse h with h | h <;> exact hpast h

theorem readClassWithin_suffix {part : Syntax} :
    ∀ (fuel : Nat) {frames : List ClassFrame} {run : ItemRun} {c : Cursor},
      readClassWithin verbose fuel frames run c = .ok (part, after) → after.rest <:+ c.rest
  | 0, _, _, _, h => by cases h
  | fuel + 1, frames, run, c, h => by
    have hspace := c.skipSpace_suffix verbose
    rcases hx : (c.skipSpace verbose).peek? with _ | x
    · rw [readClassWithin, hx] at h
      cases h
    by_cases hopen : x = '['
    · subst hopen
      simp only [readClassWithin, hx] at h
      split at h
      · rename_i hitem
        exact (readClassWithin_suffix fuel h).trans ((asciiItem?_suffix hitem).trans hspace)
      · obtain ⟨⟨span, negated, inner, c₁⟩, hinner, h⟩ := bind_eq_ok_iff.1 h
        exact (readClassWithin_suffix fuel h).trans <| (openClass_suffix hinner).trans <|
          (Cursor.next_suffix _).trans hspace
    by_cases hclose : x = ']'
    · subst hclose
      simp only [readClassWithin, hx] at h
      have hnext := (c.skipSpace verbose).next_suffix.trans hspace
      split at h
      · obtain ⟨-, rfl⟩ := Prod.mk.inj (pure_eq_ok_iff.1 h)
        exact hnext
      · exact (readClassWithin_suffix fuel h).trans hnext
      · cases h
    · simp only [readClassWithin, hx] at h
      split at h
      · rename_i hop
        exact (readClassWithin_suffix fuel h).trans ((setOperation?_suffix hop).trans hspace)
      · obtain ⟨⟨item, c₁⟩, hitem, h⟩ := bind_eq_ok_iff.1 h
        exact (readClassWithin_suffix fuel h).trans ((readClassItem_suffix hitem).trans hspace)

theorem readClass_suffix {part : Syntax} (h : readClass verbose c = .ok (part, after)) :
    after.rest <:+ c.next.rest := by
  obtain ⟨⟨span, negated, run, c₁⟩, hopen, h⟩ := bind_eq_ok_iff.1 h
  exact (readClassWithin_suffix _ h).trans (openClass_suffix hopen)

/-! ## Groups and counts -/

theorem readFlagItems_suffix {items : List FlagItem} :
    ∀ {cs : List Char} {c : Cursor} {seen : List (FlagItem × Span)},
      (readFlagItems cs c seen).toOption = some (items, after) → after.rest <:+ c.rest
  | [], _, _, h => by cases h
  | x :: cs, c, seen, h => by
    by_cases hx : x = ':' ∨ x = ')'
    · rw [toOption_readFlagItems_sign hx] at h
      split_ifs at h
      obtain ⟨-, rfl⟩ := Prod.mk.inj (Option.some.inj h)
      exact List.suffix_rfl
    · rw [toOption_readFlagItems_item hx] at h
      obtain ⟨item, -, h⟩ := Option.bind_eq_some_iff.1 h
      split_ifs at h
      exact (readFlagItems_suffix h).trans c.next_suffix

theorem readNameChars_suffix :
    ∀ {first : Bool} {cs name : List Char} {c after : Cursor},
      readNameChars first cs c = .ok (name, after) → after.rest <:+ c.rest
  | _, [], _, _, _, h => by cases h
  | first, x :: cs, name, c, after, h => by
    simp only [readNameChars] at h
    split_ifs at h
    · obtain ⟨-, rfl⟩ := Prod.mk.inj (Except.ok.inj h)
      exact List.suffix_rfl
    · obtain ⟨⟨rest, stop⟩, hrest, h⟩ := bind_eq_ok_iff.1 h
      obtain ⟨-, rfl⟩ := Prod.mk.inj (pure_eq_ok_iff.1 h)
      exact (readNameChars_suffix hrest).trans c.next_suffix

theorem readGroupName_suffix {names named : GroupNames}
    (h : readGroupName names c = .ok (named, after)) : after.rest <:+ c.rest := by
  obtain ⟨⟨name, stop⟩, hname, h⟩ := bind_eq_ok_iff.1 h
  simp only [guard_eq_ok_iff] at h
  obtain ⟨-, h⟩ := h
  split at h
  · cases h
  · obtain ⟨-, rfl⟩ := Prod.mk.inj (pure_eq_ok_iff.1 h)
    exact (Cursor.next_suffix _).trans (readNameChars_suffix hname)

theorem readOpening_suffix {names named : GroupNames} {opening : Opening}
    (h : readOpening verbose names c = .ok (opening, named, after)) :
    after.rest <:+ c.next.rest := by
  have hstep := c.step_suffix_next verbose
  rcases hmark : (c.step verbose).sees '?' with _ | _
  · rw [readOpening_plain hmark] at h
    obtain ⟨-, -, rfl⟩ := by simpa only [Except.ok.injEq, Prod.mk.injEq] using h
    exact hstep
  rw [← toOption_eq_some_iff] at h
  rcases hlook : lookAroundPrefix? (c.step verbose) with _ | place
  swap
  · rw [toOption_readOpening_lookAround hlook] at h
    cases h
  rcases hplace : namePlace? (c.step verbose) with _ | place
  · rw [toOption_readOpening_flags hlook hplace hmark] at h
    split_ifs at h
    obtain ⟨⟨items, stop⟩, hitems, h⟩ := Option.bind_eq_some_iff.1 h
    have hstop := (readFlagItems_suffix hitems).trans ((Cursor.next_suffix _).trans hstep)
    dsimp only at h
    split_ifs at h
    · obtain ⟨-, -, rfl⟩ := by simpa only [Option.some.injEq, Prod.mk.injEq] using h
      exact (Cursor.next_suffix _).trans hstop
    · obtain ⟨-, -, rfl⟩ := by simpa only [Option.some.injEq, Prod.mk.injEq] using h
      exact (Cursor.next_suffix _).trans hstop
  · rw [toOption_readOpening_named hlook hplace] at h
    obtain ⟨⟨named, after⟩, hread, heq⟩ := Option.map_eq_some_iff.1 h
    obtain ⟨-, -, rfl⟩ := by simpa only [Prod.mk.injEq] using heq
    refine (readGroupName_suffix (toOption_eq_some_iff.1 hread)).trans (.trans ?_ hstep)
    rcases eq_some_or_of_orElse hplace with h | h <;> exact Cursor.past?_suffix h

theorem readCount_suffix (verbose : Bool) (c : Cursor) : (readCount verbose c).2.rest <:+ c.rest :=
  (Cursor.takeRun_suffix _ _).trans <| (Cursor.takeRun_suffix _ _).trans (Cursor.takeRun_suffix _ c)

theorem bounds?_suffix {min : Nat} {max : Option Nat}
    (h : bounds? verbose c = some (min, max, after)) : after.rest <:+ c.rest := by
  have hcount := readCount_suffix verbose c
  have hstep := (Cursor.step_suffix verbose _).trans hcount
  simp only [bounds?] at h
  split_ifs at h
  · obtain ⟨n, -, heq⟩ := Option.map_eq_some_iff.1 h
    obtain ⟨-, -, rfl⟩ := by simpa only [Prod.mk.injEq] using heq
    exact hstep
  · obtain ⟨n, -, h⟩ := Option.bind_eq_some_iff.1 h
    obtain ⟨m, -, heq⟩ := Option.map_eq_some_iff.1 h
    obtain ⟨-, -, rfl⟩ := by simpa only [Prod.mk.injEq] using heq
    exact (readCount_suffix _ _).trans hstep
  · obtain ⟨n, -, heq⟩ := Option.map_eq_some_iff.1 h
    obtain ⟨-, -, rfl⟩ := by simpa only [Prod.mk.injEq] using heq
    exact hcount

theorem readRange_suffix {min : Nat} {max : Option Nat}
    (h : readRange verbose c = .ok (min, max, after)) : after.rest <:+ c.next.rest := by
  rw [← toOption_eq_some_iff, toOption_readRange] at h
  obtain ⟨⟨min, max, stop⟩, hbounds, h⟩ := Option.bind_eq_some_iff.1 h
  rw [closeBounds?] at h
  obtain ⟨-, h⟩ := Option.ite_none_right_eq_some.1 h
  obtain ⟨-, -, rfl⟩ := by simpa only [Option.some.injEq, Prod.mk.injEq] using h
  have hclose := (stop.step_suffix verbose).trans <|
    (bounds?_suffix hbounds).trans (c.step_suffix_next verbose)
  split_ifs
  · exact (Cursor.next_suffix _).trans hclose
  · exact hclose

/-! ## Steps -/

namespace Parse

variable {s s₁ : Parse} {x : Char}

theorem openGroup_suffix (h : s.openGroup = .ok s₁) : s₁.cur.rest <:+ s.cur.next.rest := by
  obtain ⟨⟨opening, names, cur⟩, hopening, h⟩ := bind_eq_ok_iff.1 h
  cases opening <;> obtain rfl := pure_eq_ok_iff.1 h <;> exact readOpening_suffix hopening

theorem closeGroup_suffix (h : s.closeGroup = .ok s₁) : s₁.cur.rest <:+ s.cur.next.rest := by
  unfold closeGroup at h
  split at h
  · obtain rfl := Except.ok.inj h
    exact List.suffix_rfl
  · cases h

theorem repeatSimply_suffix {min : Nat} {max : Option Nat} (h : s.repeatSimply min max = .ok s₁) :
    s₁.cur.rest <:+ s.cur.next.rest := by
  obtain ⟨⟨part, parts⟩, -, h⟩ := bind_eq_ok_iff.1 h
  obtain rfl := pure_eq_ok_iff.1 h
  dsimp only
  split_ifs
  · exact Cursor.next_suffix _
  · exact List.suffix_rfl

theorem repeatCounted_suffix (h : s.repeatCounted = .ok s₁) :
    s₁.cur.rest <:+ s.cur.next.rest := by
  obtain ⟨⟨part, parts⟩, -, h⟩ := bind_eq_ok_iff.1 h
  obtain ⟨⟨min, max, cur⟩, hrange, h⟩ := bind_eq_ok_iff.1 h
  obtain rfl := pure_eq_ok_iff.1 h
  exact readRange_suffix hrange

theorem readPart_suffix (h : s.readPart x = .ok s₁) : s₁.cur.rest <:+ s.cur.next.rest := by
  unfold readPart at h
  split at h
  · obtain ⟨⟨part, cur⟩, hclass, h⟩ := bind_eq_ok_iff.1 h
    obtain rfl := pure_eq_ok_iff.1 h
    exact readClass_suffix hclass
  · obtain ⟨⟨p, cur⟩, hescape, h⟩ := bind_eq_ok_iff.1 h
    obtain rfl := pure_eq_ok_iff.1 h
    exact readEscape_suffix hescape
  all_goals
    obtain rfl := pure_eq_ok_iff.1 h
    exact List.suffix_rfl

theorem step_suffix (h : s.step x = .ok s₁) : s₁.cur.rest <:+ s.cur.next.rest := by
  unfold step at h
  split at h
  · exact openGroup_suffix h
  · exact closeGroup_suffix h
  · obtain rfl := Except.ok.inj h
    exact List.suffix_rfl
  · exact repeatSimply_suffix h
  · exact repeatSimply_suffix h
  · exact repeatSimply_suffix h
  · exact repeatCounted_suffix h
  · exact readPart_suffix h

/-- A step takes at least one character. -/
theorem length_lt_of_step (hx : (s.cur.skipSpace s.verbose).peek? = some x)
    (h : { s with cur := s.cur.skipSpace s.verbose }.step x = .ok s₁) :
    s₁.cur.rest.length < s.cur.rest.length := by
  obtain ⟨rest, hrest⟩ := Cursor.peek?_eq_some_iff.1 hx
  have hspace := (s.cur.skipSpace_suffix s.verbose).length_le
  have hstep := (step_suffix h).length_le
  rw [Cursor.rest_next] at hstep
  rw [hrest, List.length_cons] at hspace
  rw [hrest, List.tail_cons] at hstep
  omega

end Parse

end SchemaSieve.Regex
