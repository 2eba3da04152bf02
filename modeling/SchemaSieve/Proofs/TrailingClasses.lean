import Mathlib.Data.List.TakeWhile
import Mathlib.Tactic
import SchemaSieve.Proofs.Trailing

/-!
# What stands behind a class

A class ends with a bracket of its own, so that what stands behind a pattern is not lost in a
comment inside of one: a class that is read alone is read to the same place where more stands
behind (`prolongs_readClass`).
-/

namespace SchemaSieve.Regex

variable {more : List Char} {c c' after : Cursor} {verbose : Bool} {x : Char}

/-! ## Looking ahead -/

theorem head?_ne_of_dropWhile {p : Char → Bool} {y : Char} (hy : p y = false) (cs : List Char)
    (h : (cs.dropWhile p).head? ≠ some y) : cs.head? ≠ some y := by
  rcases cs with _ | ⟨z, cs⟩
  · simp
  · rintro heq
    obtain rfl : z = y := Option.some.inj heq
    rw [List.dropWhile_cons_of_neg (by simp [hy])] at h
    exact h rfl

/-- What is seen behind the next character does not change into a bracket or a dash. -/
theorem Prolongs.peekSecond? (h : Prolongs more c c') (hne : c.rest ≠ []) {y : Char}
    (hy : y = ']' ∨ y = '-') :
    c'.peekSecond? verbose = some y ↔ c.peekSecond? verbose = some y := by
  have hrest : c'.rest.drop 1 = c.rest.drop 1 ++ ')' :: more := by
    rw [show c'.rest = _ from h, List.drop_append_of_le_length (List.length_pos_of_ne_nil hne)]
  have hclosing : ')' ≠ y := by rcases hy with rfl | rfl <;> decide
  have hhash : '#' ≠ y := by rcases hy with rfl | rfl <;> decide
  have hblank : Text.isWhiteSpace y = false := by rcases hy with rfl | rfl <;> decide
  have hdrop : (')' :: more).dropWhile Text.isWhiteSpace = ')' :: more :=
    List.dropWhile_cons_of_neg (by simp [isWhiteSpace_closing])
  simp only [Cursor.peekSecond?, hrest]
  generalize c.rest.drop 1 = ahead
  cases verbose with
  | false =>
    rcases ahead with _ | ⟨z, ahead⟩
    · simp [hclosing]
    · simp
  | true =>
    have hfirst := head?_ne_of_dropWhile hblank ahead
    simp only [if_true, List.dropWhile_append, hdrop]
    rcases hd : ahead.dropWhile Text.isWhiteSpace with _ | ⟨z, d⟩
    · rw [hd] at hfirst
      simpa [hclosing] using hfirst (by simp)
    · rw [hd] at hfirst
      by_cases hz : z = '#'
      · -- The character after a `#` is taken from what stands behind if nothing else is left.
        subst hz
        rcases he : d.dropWhile Text.isWhiteSpace with _ | ⟨w, e⟩
        · simpa [List.dropWhile_append, hdrop, he, hclosing] using hfirst (by simp [hhash])
        · simp [List.dropWhile_append, he]
      · simp [hz]

/-- In one go, a run without blanks between is what comes before the first other character. -/
theorem takeRunWithin_plain {p : Char → Bool} :
    ∀ {fuel : Nat} {c : Cursor}, c.rest.length ≤ fuel →
      (c.takeRunWithin false p fuel).1 = c.rest.takeWhile p ∧
        (c.takeRunWithin false p fuel).2.rest = c.rest.dropWhile p
  | 0, c, hfuel => by
    have hnil := List.eq_nil_of_length_eq_zero (Nat.le_zero.1 hfuel)
    simp [takeRunWithin_of_nil, hnil]
  | fuel + 1, c, hfuel => by
    rcases hrest : c.rest with _ | ⟨x, rest⟩
    · simp [takeRunWithin_of_nil, hrest]
    · have hnext : (c.step false).rest = rest := by
        rw [Cursor.step, Cursor.skipSpace, if_neg (by simp), Cursor.rest_next, hrest,
          List.tail_cons]
      have hfuel : (c.step false).rest.length ≤ fuel := by
        rw [hrest, List.length_cons] at hfuel
        rw [hnext]
        omega
      rw [takeRunWithin_of_peek? (Cursor.peek?_eq_some_iff.2 ⟨rest, hrest⟩)]
      obtain ⟨hxs, hstop⟩ := takeRunWithin_plain (p := p) hfuel
      rw [hnext] at hxs hstop
      split_ifs with hp
      · simp [hxs, hstop, hp]
      · simp [hrest, hp]

/-! ## Items -/

def ItemRun.erase (run : ItemRun) : ItemRun := ⟨.nowhere, run.items.map ClassSet.erase⟩

def ClassFrame.erase : ClassFrame → ClassFrame
  | opened outer _ negated => .opened outer.erase .nowhere negated
  | operand op left => .operand op left.erase

theorem ItemRun.items_of_erase {run run' : ItemRun} (h : run'.erase = run.erase) :
    run'.items.map ClassSet.erase = run.items.map ClassSet.erase :=
  congrArg ItemRun.items h

theorem ItemRun.erase_push (run : ItemRun) (item : ClassSet) :
    (run.push item).erase = ⟨.nowhere, item.erase :: run.items.map ClassSet.erase⟩ := rfl

theorem ItemRun.erase_push_congr {run run' : ItemRun} {item item' : ClassSet}
    (h : run'.erase = run.erase) (hitem : item'.erase = item.erase) :
    (run'.push item').erase = (run.push item).erase := by
  rw [erase_push, erase_push, hitem, items_of_erase h]

theorem ItemRun.erase_toSet (run : ItemRun) : run.toSet.erase = run.erase.toSet := by
  obtain ⟨span, _ | ⟨item, _ | ⟨next, items⟩⟩⟩ := run
  all_goals simp [toSet, erase, ClassSet.erase, ClassSet.eraseAll_eq_map]

theorem ItemRun.erase_toSet_congr {run run' : ItemRun} (h : run'.erase = run.erase) :
    run'.toSet.erase = run.toSet.erase := by
  rw [erase_toSet, erase_toSet, h]

theorem closeOperation_congr {right right' : ClassSet} {frames frames' : List ClassFrame}
    (hright : right'.erase = right.erase)
    (hframes : frames'.map ClassFrame.erase = frames.map ClassFrame.erase) :
    (closeOperation right' frames').1.erase = (closeOperation right frames).1.erase ∧
      (closeOperation right' frames').2.map ClassFrame.erase
        = (closeOperation right frames).2.map ClassFrame.erase := by
  rcases frames with _ | ⟨f, frames⟩ <;> rcases frames' with _ | ⟨f', frames'⟩
  · exact ⟨hright, rfl⟩
  · cases hframes
  · cases hframes
  · obtain ⟨hf, hframes'⟩ := List.cons_eq_cons.1 hframes
    cases f <;> cases f' <;> simp only [ClassFrame.erase, reduceCtorEq] at hf
    · exact ⟨hright, hframes⟩
    · injection hf with hop hleft
      refine ⟨?_, hframes'⟩
      simp only [closeOperation, ClassSet.erase, hright, hop, hleft]

/-! ## Openings -/

theorem prolongs_readDashes {start : Position} (start' : Position) :
    ∀ {fuel fuel' : Nat} {run run' read : ItemRun} {c c' after : Cursor},
      c.rest.length ≤ fuel → c'.rest.length ≤ fuel' → run'.erase = run.erase → Prolongs more c c' →
      readDashes verbose start fuel run c = .ok (read, after) →
      ∃ read' after', readDashes verbose start' fuel' run' c' = .ok (read', after') ∧
        read'.erase = read.erase ∧ Prolongs more after after'
  | _, 0, _, _, _, _, _, _, _, hfuel', _, hc, _ =>
    absurd (List.eq_nil_of_length_eq_zero (Nat.le_zero.1 hfuel')) hc.rest_ne_nil
  | 0, fuel' + 1, run, run', read, c, c', after, hfuel, _, hrun, hc, h => by
    have hnil := List.eq_nil_of_length_eq_zero (Nat.le_zero.1 hfuel)
    obtain ⟨rfl, rfl⟩ := Prod.mk.inj (Except.ok.inj h)
    have hdash : c.sees '-' = false := by simp [Cursor.sees, Cursor.peek?, hnil]
    refine ⟨run', c', ?_, hrun, hc⟩
    rw [readDashes, hc.sees (by decide), hdash]
    rfl
  | fuel + 1, fuel' + 1, run, run', read, c, c', after, hfuel, hfuel', hrun, hc, h => by
    simp only [readDashes] at h ⊢
    rw [hc.sees (by decide)]
    split_ifs at h with hdash hend
    · have hstep := Cursor.atEnd_eq_false_iff.1 (Bool.eq_false_of_not_eq_true hend)
      have hc₁ := hc.step hstep
      have hlt := Cursor.rest_step_length_lt verbose (Cursor.rest_ne_nil_of_step hstep)
      have hlt' := Cursor.rest_step_length_lt verbose hc.rest_ne_nil
      rw [if_pos hdash, hc₁.atEnd, if_neg Bool.false_ne_true]
      refine prolongs_readDashes start' (Nat.le_of_lt_succ (hlt.trans_le hfuel))
        (Nat.le_of_lt_succ (hlt'.trans_le hfuel')) ?_ hc₁ h
      exact ItemRun.erase_push_congr hrun rfl
    · obtain ⟨rfl, rfl⟩ := Prod.mk.inj (Except.ok.inj h)
      exact ⟨run', c', if_neg hdash, hrun, hc⟩

theorem ItemRun.isEmpty_congr {run run' : ItemRun} (h : run'.erase = run.erase) :
    run'.items.isEmpty = run.items.isEmpty := by
  rw [← List.isEmpty_map (f := ClassSet.erase), items_of_erase h, List.isEmpty_map]

/-- The place behind the bracket that opens a class, and behind its negation. -/
def classBody (verbose : Bool) (c : Cursor) : Cursor :=
  if (c.step verbose).sees '^' then (c.step verbose).step verbose else c.step verbose

theorem openClass_of_readDashes {dashes : ItemRun} {stop : Cursor}
    (hfirst : (c.step verbose).atEnd = false) (hbody : (classBody verbose c).atEnd = false)
    (h : readDashes verbose c.pos (classBody verbose c).rest.length
      ⟨(classBody verbose c).here, []⟩ (classBody verbose c) = .ok (dashes, stop)) :
    openClass verbose c =
      if dashes.items.isEmpty && stop.sees ']' then
        if (stop.step verbose).atEnd then
          .error ⟨.classUnclosed, (stop.step verbose).since c.pos, none⟩
        else .ok ((stop.step verbose).since c.pos, (c.step verbose).sees '^',
          dashes.push (.literal ⟨stop.charSpan, ']', false⟩), stop.step verbose)
      else .ok (stop.since c.pos, (c.step verbose).sees '^', dashes, stop) := by
  rw [classBody] at hbody h
  simp only [openClass, hfirst, hbody, h, ok_bind, Bool.false_eq_true, if_false]
  rfl

theorem exists_of_openClass {v : Span × Bool × ItemRun × Cursor} (h : openClass verbose c = .ok v) :
    (c.step verbose).atEnd = false ∧ (classBody verbose c).atEnd = false ∧
      ∃ dashes stop, readDashes verbose c.pos (classBody verbose c).rest.length
        ⟨(classBody verbose c).here, []⟩ (classBody verbose c) = .ok (dashes, stop) := by
  simp only [openClass, guard_eq_ok_iff, Bool.not_eq_true] at h
  obtain ⟨hfirst, hbody, h⟩ := h
  obtain ⟨⟨dashes, stop⟩, hdashes, -⟩ := bind_eq_ok_iff.1 h
  exact ⟨hfirst, hbody, dashes, stop, hdashes⟩

theorem prolongs_openClass {span : Span} {negated : Bool} {run : ItemRun} (hc : Prolongs more c c')
    (h : openClass verbose c = .ok (span, negated, run, after)) :
    ∃ span' run' after', openClass verbose c' = .ok (span', negated, run', after') ∧
      run'.erase = run.erase ∧ Prolongs more after after' := by
  obtain ⟨hfirst, hbody, dashes, stop, hdashes⟩ := exists_of_openClass h
  have hc₁ := hc.step (Cursor.atEnd_eq_false_iff.1 hfirst)
  have hneg := hc₁.sees (x := '^') (by decide)
  have hc₂ : Prolongs more (classBody verbose c) (classBody verbose c') := by
    unfold classBody at hbody ⊢
    rw [hneg]
    split_ifs at hbody ⊢
    · exact hc₁.step (Cursor.atEnd_eq_false_iff.1 hbody)
    · exact hc₁
  have hrun (body body' : Cursor) :
      (⟨body'.here, []⟩ : ItemRun).erase = (⟨body.here, []⟩ : ItemRun).erase := rfl
  obtain ⟨dashes', stop', hdashes', hsame, hc₃⟩ :=
    prolongs_readDashes c'.pos le_rfl le_rfl (hrun _ (classBody verbose c')) hc₂ hdashes
  rw [openClass_of_readDashes hfirst hbody hdashes] at h
  rw [openClass_of_readDashes hc₁.atEnd hc₂.atEnd hdashes', ItemRun.isEmpty_congr hsame,
    hc₃.sees (by decide), hneg]
  split_ifs at h with hbracket hend
  · obtain ⟨-, rfl, rfl, rfl⟩ := by simpa only [Except.ok.injEq, Prod.mk.injEq] using h
    have hc₄ := hc₃.step (Cursor.atEnd_eq_false_iff.1 (Bool.eq_false_of_not_eq_true hend))
    rw [if_pos hbracket, hc₄.atEnd]
    exact ⟨_, _, _, rfl, ItemRun.erase_push_congr hsame rfl, hc₄⟩
  · obtain ⟨-, rfl, rfl, rfl⟩ := by simpa only [Except.ok.injEq, Prod.mk.injEq] using h
    exact ⟨_, _, _, if_neg hbracket, hsame, hc₃⟩

/-! ## Classes named between colons -/

/-- No class has a name with a parenthesis. -/
theorem asciiClass?_eq_none {name : List Char} (h : ')' ∈ name) :
    asciiClass? (String.ofList name) = none := by
  unfold asciiClass?
  split
  case h_15 => rfl
  all_goals
    rename_i heq
    have hname := congrArg String.toList heq
    rw [String.toList_ofList] at hname
    subst hname
    exact absurd h (by decide)

/-- Behind a name that comes to the end of the pattern, the parenthesis is a part of it. -/
theorem mem_takeRun_of_nil (hc : Prolongs more c c') {p : Char → Bool} (hp : p ')' = true)
    (hnil : (c.takeRun false p).2.rest = []) : ')' ∈ (c'.takeRun false p).1 := by
  have hall := (takeRunWithin_plain (p := p) (c := c) le_rfl).2
  replace hall := List.dropWhile_eq_nil_iff.1 (hall.symm.trans hnil)
  have hrun := (takeRunWithin_plain (p := p) (c := c') le_rfl).1
  rw [Cursor.takeRun, hrun, show c'.rest = _ from hc, List.takeWhile_append_of_pos hall,
    List.takeWhile_cons_of_pos hp]
  simp

theorem rel_asciiItem? (hc : Prolongs more c c') :
    Option.Rel (fun p p' => p'.1.erase = p.1.erase ∧ Prolongs more p.2 p'.2)
      (asciiItem? c) (asciiItem? c') := by
  have hopen := rel_past? ['[', ':'] (by decide) hc
  simp only [asciiItem?, bind]
  generalize c.past? ['[', ':'] = colon?, c'.past? ['[', ':'] = colon?' at hopen
  rcases hopen with @⟨colon, colon', hcolon⟩ | _
  swap
  · exact .none
  have hneg := hcolon.sees (x := '^') (by decide)
  have hbody : Prolongs more (if colon.sees '^' then colon.next else colon)
      (if colon'.sees '^' then colon'.next else colon') := by
    rw [hneg]
    split_ifs with hnegated
    · exact hcolon.next (Cursor.rest_ne_nil_of_sees hnegated)
    · exact hcolon
  simp only [Option.bind_some]
  generalize (if colon.sees '^' then colon.next else colon) = body,
    (if colon'.sees '^' then colon'.next else colon') = body' at hbody
  by_cases hnil : (body.takeRun false (· != ':')).2.rest = []
  · have hnone := asciiClass?_eq_none (mem_takeRun_of_nil hbody (by decide) hnil)
    simp [hnone, Cursor.past?, Cursor.sees, Cursor.peek?, hnil]
  · obtain ⟨hname, hstop⟩ := hbody.takeRun hnil
    have hclose := rel_past? [':', ']'] (by decide) hstop
    rw [hname, hneg]
    generalize Cursor.past? (body.takeRun false (· != ':')).2 [':', ']'] = after?,
      Cursor.past? (body'.takeRun false (· != ':')).2 [':', ']'] = after?' at hclose
    rcases hclose with @⟨after, after', hafter⟩ | _
    · rcases asciiClass? (String.ofList (body.takeRun false (· != ':')).1) with _ | kind
      · exact .none
      · exact .some ⟨rfl, hafter⟩
    · exact .none

/-! ## Items of a class -/

theorem readClassPrimitive_plain (hx : c.peek? = some x) (hslash : x ≠ '\\') :
    readClassPrimitive verbose c = .ok (.literal ⟨c.charSpan, x, false⟩, c.next) := by
  simp only [readClassPrimitive, hx]
  rfl

theorem settles_readClassPrimitive {p : Primitive}
    (h : readClassPrimitive verbose c = .ok (p, after)) :
    Settles (·.erase = p.erase) after fun more r =>
      ∃ c', Prolongs more c c' ∧ r = readClassPrimitive verbose c' := by
  rcases hx : c.peek? with _ | x
  · rw [readClassPrimitive, hx] at h
    cases h
  by_cases hslash : x = '\\'
  · subst hslash
    rw [readClassPrimitive, hx] at h
    refine (settles_readEscape h).imp ?_
    rintro more _ ⟨c', hc, rfl⟩
    refine ⟨_, ⟨c', hc, rfl⟩, fun p' c₁ hr hp' => ⟨p', ?_, hp'⟩⟩
    rw [readClassPrimitive, hc.peek? hx]
    exact hr
  · rw [readClassPrimitive_plain hx hslash] at h
    obtain ⟨rfl, rfl⟩ := Prod.mk.inj (Except.ok.inj h)
    refine .of_prolongs ?_
    rintro more _ ⟨c', hc, rfl⟩
    exact ⟨_, _, readClassPrimitive_plain (hc.peek? hx) hslash, rfl,
      hc.next (Cursor.rest_ne_nil_of_peek? hx)⟩

theorem Primitive.toClassSet_congr {p p' : Primitive} {s : ClassSet} (hp : p'.erase = p.erase)
    (h : p.toClassSet = .ok s) : ∃ s', p'.toClassSet = .ok s' ∧ s'.erase = s.erase := by
  cases p <;> cases p' <;> simp only [erase, reduceCtorEq] at hp <;>
    simp only [toClassSet, Except.ok.injEq, reduceCtorEq] at h <;> subst h
  all_goals
    injection hp
    refine ⟨_, rfl, ?_⟩
    simp only [ClassSet.erase, *]

theorem Primitive.toLiteral_congr {p p' : Primitive} {l : Literal} (hp : p'.erase = p.erase)
    (h : p.toLiteral = .ok l) : ∃ l', p'.toLiteral = .ok l' ∧ l'.erase = l.erase := by
  cases p <;> cases p' <;> simp only [erase, reduceCtorEq] at hp <;>
    simp only [toLiteral, Except.ok.injEq, reduceCtorEq] at h
  subst h
  exact ⟨_, rfl, Primitive.literal.inj hp⟩

theorem Literal.char_congr {l l' : Literal} (h : l'.erase = l.erase) : l'.char = l.char :=
  (Literal.mk.inj h).2.1

theorem prolongs_readClassItem {unclosed : Fault} (unclosed' : Fault) {item : ClassSet}
    (hc : Prolongs more c c') (h : readClassItem verbose unclosed c = .ok (item, after))
    (hne : after.rest ≠ []) :
    ∃ item' after', readClassItem verbose unclosed' c' = .ok (item', after') ∧
      item'.erase = item.erase ∧ Prolongs more after after' := by
  obtain ⟨⟨first, c₀⟩, hfirst, h⟩ := bind_eq_ok_iff.1 h
  simp only [guard_eq_ok_iff, Bool.not_eq_true] at h
  obtain ⟨hend, h⟩ := h
  have hspace := Cursor.atEnd_eq_false_iff.1 hend
  obtain ⟨first', c₀', hfirst', hsame, hc₀⟩ := (settles_readClassPrimitive hfirst).prolongs
    (Cursor.rest_ne_nil_of_skipSpace hspace) ⟨c', hc, rfl⟩
  have hc₁ := hc₀.skipSpace hspace
  have hsecond {y : Char} (hy : y = ']' ∨ y = '-') :
      ((c₀'.skipSpace verbose).peekSecond? verbose == some y)
        = ((c₀.skipSpace verbose).peekSecond? verbose == some y) := by
    rw [Bool.eq_iff_iff, beq_iff_eq, beq_iff_eq]
    exact hc₁.peekSecond? hspace hy
  simp only [readClassItem, hfirst', ok_bind, hc₁.atEnd, hc₁.sees (x := '-') (by decide),
    hsecond (.inl rfl), hsecond (.inr rfl), Bool.false_eq_true, if_false]
  split_ifs at h with hsingle hlast
  · obtain ⟨set, hset, h⟩ := bind_eq_ok_iff.1 h
    obtain ⟨rfl, rfl⟩ := Prod.mk.inj (pure_eq_ok_iff.1 h)
    obtain ⟨set', hset', hsame'⟩ := Primitive.toClassSet_congr hsame hset
    exact ⟨set', _, by rw [if_pos hsingle, hset']; rfl, hsame', hc₁⟩
  · cases h
  · obtain ⟨⟨last, c₂⟩, hlast', h⟩ := bind_eq_ok_iff.1 h
    obtain ⟨lo, hlo, h⟩ := bind_eq_ok_iff.1 h
    obtain ⟨hi, hhi, h⟩ := bind_eq_ok_iff.1 h
    simp only [guard_eq_ok_iff] at h
    obtain ⟨horder, h⟩ := h
    obtain ⟨rfl, rfl⟩ := Prod.mk.inj (pure_eq_ok_iff.1 h)
    have hdash := hc₁.step (Cursor.atEnd_eq_false_iff.1 (Bool.eq_false_of_not_eq_true hlast))
    obtain ⟨last', c₂', hlast', hsame', hc₂⟩ :=
      (settles_readClassPrimitive hlast').prolongs hne ⟨_, hdash, rfl⟩
    obtain ⟨lo', hlo', hsameLo⟩ := Primitive.toLiteral_congr hsame hlo
    obtain ⟨hi', hhi', hsameHi⟩ := Primitive.toLiteral_congr hsame' hhi
    refine ⟨.range lo' hi', c₂', ?_, by simp only [ClassSet.erase, hsameLo, hsameHi], hc₂⟩
    rw [if_neg hsingle, hdash.atEnd]
    simp only [hlast', hlo', hhi', ok_bind, Literal.char_congr hsameLo, Literal.char_congr hsameHi,
      horder, Bool.false_eq_true, if_false]
    rfl

/-! ## Classes -/

theorem rel_setOperation? (hc : Prolongs more c c') :
    Option.Rel (fun p p' => p'.1 = p.1 ∧ Prolongs more p.2 p'.2)
      (setOperation? c) (setOperation? c') := by
  have hand := rel_past? ['&', '&'] (by decide) hc
  have hminus := rel_past? ['-', '-'] (by decide) hc
  have htilde := rel_past? ['~', '~'] (by decide) hc
  unfold setOperation?
  generalize c.past? ['&', '&'] = and?, c'.past? ['&', '&'] = and?' at hand
  generalize c.past? ['-', '-'] = minus?, c'.past? ['-', '-'] = minus?' at hminus
  generalize c.past? ['~', '~'] = tilde?, c'.past? ['~', '~'] = tilde?' at htilde
  cases hand with
  | some h => exact .some ⟨rfl, h⟩
  | none =>
    cases hminus with
    | some h => exact .some ⟨rfl, h⟩
    | none =>
      cases htilde with
      | some h => exact .some ⟨rfl, h⟩
      | none => exact .none

theorem ClassFrame.erase_eq_opened {f : ClassFrame} {outer : ItemRun} {span : Span} {negated : Bool}
    (h : f.erase = .opened outer span negated) :
    ∃ outer' span', f = .opened outer' span' negated ∧ outer'.erase = outer := by
  cases f with
  | opened outer' span' negated' =>
    obtain ⟨houter, -, rfl⟩ := ClassFrame.opened.inj h
    exact ⟨outer', span', rfl, houter⟩
  | operand _ _ => cases h

/-- More of a class is read only where something is left of it. -/
theorem rest_ne_nil_of_readClassWithin {fuel : Nat} {frames : List ClassFrame} {run : ItemRun}
    {v : Syntax × Cursor} (h : readClassWithin verbose fuel frames run c = .ok v) :
    (c.skipSpace verbose).rest ≠ [] := by
  intro hnil
  cases fuel with
  | zero => cases h
  | succ fuel =>
    rw [readClassWithin, Cursor.peek?_eq_none_iff.2 hnil] at h
    cases h

/-- What is left of a class is read alike with so many steps where a parenthesis follows. -/
def ClassesAlike (verbose : Bool) (more : List Char) (fuel fuel' : Nat) : Prop :=
  ∀ ⦃frames frames' : List ClassFrame⦄ ⦃run run' : ItemRun⦄ ⦃c c' after : Cursor⦄ ⦃part : Syntax⦄,
    frames'.map ClassFrame.erase = frames.map ClassFrame.erase → run'.erase = run.erase →
    Prolongs more c c' → readClassWithin verbose fuel frames run c = .ok (part, after) →
    ∃ part' after', readClassWithin verbose fuel' frames' run' c' = .ok (part', after') ∧
      part'.erase = part.erase ∧ Prolongs more after after'

namespace ClassesAlike

variable {fuel fuel' : Nat} {frames frames' : List ClassFrame} {run run' : ItemRun} {part : Syntax}
  (ih : ClassesAlike verbose more fuel fuel')
  (hframes : frames'.map ClassFrame.erase = frames.map ClassFrame.erase)
  (hrun : run'.erase = run.erase)
  (hc : Prolongs more (c.skipSpace verbose) (c'.skipSpace verbose))
  (h : readClassWithin verbose (fuel + 1) frames run c = .ok (part, after))

include ih hframes hrun hc h

theorem openBracket (hx : (c.skipSpace verbose).peek? = some '[') :
    ∃ part' after', readClassWithin verbose (fuel' + 1) frames' run' c' = .ok (part', after') ∧
      part'.erase = part.erase ∧ Prolongs more after after' := by
  simp only [readClassWithin, hx] at h
  simp only [readClassWithin, hc.peek? hx]
  have hascii := rel_asciiItem? hc
  generalize asciiItem? (c.skipSpace verbose) = item?,
    asciiItem? (c'.skipSpace verbose) = item?' at hascii h ⊢
  cases hascii with
  | some hitem => exact ih hframes (ItemRun.erase_push_congr hrun hitem.1) hitem.2 h
  | none =>
    obtain ⟨⟨span, negated, inner, c₂⟩, hinner, h⟩ := bind_eq_ok_iff.1 h
    obtain ⟨span', inner', c₂', hinner', hsame, hc₂⟩ := prolongs_openClass hc hinner
    simp only [hinner', ok_bind]
    refine ih ?_ hsame hc₂ h
    simp only [List.map_cons, ClassFrame.erase, hrun, hframes]

/-- The bracket that closes a class ends the reading if no other class is open. -/
theorem closeBracket (hx : (c.skipSpace verbose).peek? = some ']') :
    ∃ part' after', readClassWithin verbose (fuel' + 1) frames' run' c' = .ok (part', after') ∧
      part'.erase = part.erase ∧ Prolongs more after after' := by
  obtain ⟨hset, hleft⟩ := closeOperation_congr (ItemRun.erase_toSet_congr hrun) hframes
  have hnext := hc.next (rest_ne_nil_of_readClassWithin h)
  simp only [readClassWithin, hx] at h
  simp only [readClassWithin, hc.peek? hx]
  generalize closeOperation run.toSet frames = left at hset hleft h
  generalize closeOperation run'.toSet frames' = left' at hset hleft ⊢
  obtain ⟨set, left⟩ := left
  obtain ⟨set', left'⟩ := left'
  rcases left with _ | ⟨⟨outer, span, negated⟩ | ⟨op, side⟩, frames⟩
  · cases h
  · obtain ⟨f', frames', rfl, hf', hframes⟩ := List.map_eq_cons_iff.1 hleft
    obtain ⟨outer', span', rfl, houter⟩ := ClassFrame.erase_eq_opened hf'
    rcases frames with _ | ⟨f, frames⟩
    · obtain rfl := List.map_eq_nil_iff.1 hframes
      obtain ⟨rfl, rfl⟩ := Prod.mk.inj (pure_eq_ok_iff.1 h)
      exact ⟨_, _, rfl, by simp only [Syntax.erase, hset], hnext⟩
    · obtain ⟨f', frames', rfl, -, -⟩ := List.map_eq_cons_iff.1 hframes
      refine ih hframes (ItemRun.erase_push_congr houter ?_) hnext h
      simp only [ClassSet.erase, hset]
  · cases h

theorem otherwise (hx : (c.skipSpace verbose).peek? = some x) (hopen : x ≠ '[') (hclose : x ≠ ']') :
    ∃ part' after', readClassWithin verbose (fuel' + 1) frames' run' c' = .ok (part', after') ∧
      part'.erase = part.erase ∧ Prolongs more after after' := by
  simp only [readClassWithin, hx] at h
  simp only [readClassWithin, hc.peek? hx]
  have hop := rel_setOperation? hc
  generalize setOperation? (c.skipSpace verbose) = op?,
    setOperation? (c'.skipSpace verbose) = op?' at hop h ⊢
  cases hop with
  | some hop =>
    obtain ⟨hset, hleft⟩ := closeOperation_congr (ItemRun.erase_toSet_congr hrun) hframes
    refine ih ?_ ?_ hop.2 h
    · simp only [List.map_cons, ClassFrame.erase, hop.1, hset, hleft]
    · rfl
  | none =>
    obtain ⟨⟨item, c₂⟩, hitem, h⟩ := bind_eq_ok_iff.1 h
    have hne := Cursor.rest_ne_nil_of_skipSpace (rest_ne_nil_of_readClassWithin h)
    obtain ⟨item', c₂', hitem', hsame, hc₂⟩ :=
      prolongs_readClassItem (unclosedClass (c'.skipSpace verbose) frames') hc hitem hne
    simp only [hitem', ok_bind]
    exact ih hframes (ItemRun.erase_push_congr hrun hsame) hc₂ h

end ClassesAlike

theorem prolongs_readClassWithin :
    ∀ {fuel fuel' : Nat}, fuel ≤ fuel' → ClassesAlike verbose more fuel fuel'
  | 0, _, _ => by
    rintro _ _ _ _ _ _ _ _ - - - h
    cases h
  | fuel + 1, fuel' + 1, hfuel => by
    intro frames frames' run run' c c' after part hframes hrun hc h
    have ih := prolongs_readClassWithin (Nat.le_of_succ_le_succ hfuel)
    have hspace := rest_ne_nil_of_readClassWithin h
    have hc₁ := hc.skipSpace hspace
    obtain ⟨x, rest, hrest⟩ := List.exists_cons_of_ne_nil hspace
    have hx := Cursor.peek?_eq_some_iff.2 ⟨rest, hrest⟩
    by_cases hopen : x = '['
    · exact ih.openBracket hframes hrun hc₁ h (hopen ▸ hx)
    by_cases hclose : x = ']'
    · exact ih.closeBracket hframes hrun hc₁ h (hclose ▸ hx)
    · exact ih.otherwise hframes hrun hc₁ h hx hopen hclose

theorem prolongs_readClass {part : Syntax} (hc : Prolongs more c c')
    (h : readClass verbose c = .ok (part, after)) :
    ∃ part' after', readClass verbose c' = .ok (part', after') ∧ part'.erase = part.erase ∧
      Prolongs more after after' := by
  obtain ⟨⟨span, negated, run, c₁⟩, hopen, h⟩ := bind_eq_ok_iff.1 h
  obtain ⟨span', run', c₁', hopen', hsame, hc₁⟩ := prolongs_openClass hc hopen
  simp only [readClass, hopen', ok_bind]
  refine prolongs_readClassWithin ?_ ?_ hsame hc₁ h
  · rw [show c₁'.rest = _ from hc₁, List.length_append]
    omega
  · rfl

end SchemaSieve.Regex
