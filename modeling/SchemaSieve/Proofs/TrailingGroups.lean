import Mathlib.Tactic
import SchemaSieve.Proofs.Trailing
import SchemaSieve.Regex.Parser.Group

/-!
# What stands behind a group's opening or a count

What belongs to the opening of a group, and what belongs to a count, is read to the same place where
more stands behind; only the space that follows it can be lost in a comment (`settles_readOpening`,
`settles_readRange`).
-/

namespace SchemaSieve.Regex

variable {more : List Char} {c c' after : Cursor} {verbose : Bool} {x : Char}

/-! ## Looking at what comes next -/

theorem Cursor.sees_of_nil (h : c.rest = []) (x : Char) : c.sees x = false := by
  simp [sees, peek?, h]

theorem Cursor.past?_of_sees (h : c.sees x = false) (xs : List Char) :
    c.past? (x :: xs) = none := by
  rw [past?, h]
  rfl

theorem Prolongs.sees_of_ne_nil (h : Prolongs more c c') (hne : c.rest ≠ []) (x : Char) :
    c'.sees x = c.sees x := by
  obtain ⟨y, rest, hrest⟩ := List.exists_cons_of_ne_nil hne
  have hy := Cursor.peek?_eq_some_iff.2 ⟨rest, hrest⟩
  rw [Cursor.sees, Cursor.sees, hy, h.peek? hy]

theorem Meets.sees {lost : Bool} (h : Meets lost more c c') (hx : x ≠ ')') :
    c'.sees x = c.sees x := by
  cases lost with
  | true => rw [Cursor.sees_of_nil h.1, Cursor.sees_of_nil h.2]
  | false => exact Prolongs.sees h hx

/-- A sign that may come next is passed on both ways. -/
theorem Meets.pass {lost : Bool} (h : Meets lost more c c') (hx : x ≠ ')') :
    Meets lost more (if c.sees x then c.next else c) (if c'.sees x then c'.next else c') := by
  rw [h.sees hx]
  split_ifs with hsees
  · cases lost with
    | true => exact absurd h.1 (Cursor.rest_ne_nil_of_sees hsees)
    | false => exact Prolongs.next h (Cursor.rest_ne_nil_of_sees hsees)
  · exact h

/-! ## Flags -/

theorem lookup_eq_none_congr {α β : Type} [BEq α] {xs ys : List (α × β)}
    (h : ys.map Prod.fst = xs.map Prod.fst) (key : α) :
    ys.lookup key = none ↔ xs.lookup key = none := by
  have hiff (zs : List (α × β)) : zs.lookup key = none ↔ ∀ k ∈ zs.map Prod.fst, key != k := by
    simp [List.lookup_eq_none_iff]
  rw [hiff, hiff, h]

def flagItem? (x : Char) : Option FlagItem :=
  if x = '-' then some .negation else (flag? x).map .flag

/-- The sign behind some flags ends them, unless a negation stands before it. -/
theorem toOption_readFlagItems_sign {cs : List Char} {seen : List (FlagItem × Span)}
    (hx : x = ':' ∨ x = ')') :
    (readFlagItems (x :: cs) c seen).toOption =
      if (seen.map Prod.fst).head? = some .negation then none
      else some ((seen.map Prod.fst).reverse, c) := by
  unfold readFlagItems
  rw [if_pos hx]
  rcases seen with _ | ⟨⟨_ | f, span⟩, seen⟩ <;> simp

theorem toOption_readFlagItems_item {cs : List Char} {seen : List (FlagItem × Span)}
    (hx : ¬ (x = ':' ∨ x = ')')) :
    (readFlagItems (x :: cs) c seen).toOption = (flagItem? x).bind fun item =>
      if seen.lookup item = none then
        (readFlagItems cs c.next ((item, c.charSpan) :: seen)).toOption
      else none := by
  conv_lhs => unfold readFlagItems
  rw [if_neg hx]
  unfold flagItem?
  generalize (if x = '-' then some FlagItem.negation else (flag? x).map .flag) = item?
  rcases item? with _ | item
  · rfl
  · rcases hseen : seen.lookup item with _ | span <;> simp [hseen]

theorem prolongs_readFlagItems {items : List FlagItem} {stop : Cursor} :
    ∀ {cs : List Char} {c c' : Cursor} {seen seen' : List (FlagItem × Span)}, c.rest = cs →
      Prolongs more c c' → seen'.map Prod.fst = seen.map Prod.fst →
      (readFlagItems cs c seen).toOption = some (items, stop) →
      stop.rest ≠ [] ∧ ∃ stop',
        (readFlagItems (cs ++ ')' :: more) c' seen').toOption = some (items, stop') ∧
          Prolongs more stop stop'
  | [], _, _, _, _, _, _, _, h => by cases h
  | x :: cs, c, c', seen, seen', hrest, hc, hseen, h => by
    have hne : c.rest ≠ [] := by simp [hrest]
    rw [List.cons_append]
    by_cases hx : x = ':' ∨ x = ')'
    · rw [toOption_readFlagItems_sign hx] at h ⊢
      rw [hseen]
      split_ifs at h ⊢
      obtain ⟨rfl, rfl⟩ := Prod.mk.inj (Option.some.inj h)
      exact ⟨hne, c', rfl, hc⟩
    · rw [toOption_readFlagItems_item hx] at h ⊢
      obtain ⟨item, hitem, h⟩ := Option.bind_eq_some_iff.1 h
      rw [hitem, Option.bind_some]
      split_ifs at h with hnew
      rw [if_pos ((lookup_eq_none_congr hseen item).2 hnew)]
      refine prolongs_readFlagItems ?_ (hc.next hne) ?_ h
      · rw [Cursor.rest_next, hrest, List.tail_cons]
      · rw [List.map_cons, List.map_cons, hseen]

/-! ## Names -/

theorem prolongs_readNameChars {stop : Cursor} :
    ∀ {first : Bool} {cs : List Char} {c c' : Cursor} {name : List Char}, c.rest = cs →
      Prolongs more c c' → readNameChars first cs c = .ok (name, stop) →
      stop.rest ≠ [] ∧ ∃ stop', readNameChars first (cs ++ ')' :: more) c' = .ok (name, stop') ∧
        Prolongs more stop stop'
  | _, [], _, _, _, _, _, h => by cases h
  | first, x :: cs, c, c', name, hrest, hc, h => by
    have hne : c.rest ≠ [] := by simp [hrest]
    rw [List.cons_append]
    simp only [readNameChars] at h ⊢
    split_ifs at h ⊢ with hend hchar
    · obtain ⟨rfl, rfl⟩ := Prod.mk.inj (Except.ok.inj h)
      exact ⟨hne, c', rfl, hc⟩
    · obtain ⟨⟨rest, stop⟩, hrest', h⟩ := bind_eq_ok_iff.1 h
      obtain ⟨rfl, rfl⟩ := Prod.mk.inj (pure_eq_ok_iff.1 h)
      obtain ⟨hstop, stop', hread, hc₁⟩ := prolongs_readNameChars
        (by rw [Cursor.rest_next, hrest, List.tail_cons]) (hc.next hne) hrest'
      exact ⟨hstop, stop', by rw [hread]; rfl, hc₁⟩

theorem prolongs_readGroupName {names names' named : GroupNames}
    (hnames : names'.map Prod.fst = names.map Prod.fst) (hc : Prolongs more c c')
    (h : readGroupName names c = .ok (named, after)) :
    ∃ named' after', readGroupName names' c' = .ok (named', after') ∧
      named'.map Prod.fst = named.map Prod.fst ∧ Prolongs more after after' := by
  obtain ⟨⟨name, stop⟩, hname, h⟩ := bind_eq_ok_iff.1 h
  simp only [guard_eq_ok_iff] at h
  obtain ⟨hempty, h⟩ := h
  obtain ⟨hne, stop', hname', hc₁⟩ := prolongs_readNameChars rfl hc hname
  rcases hnew : names.lookup name with _ | span
  · simp only [hnew] at h
    obtain ⟨rfl, rfl⟩ := Prod.mk.inj (pure_eq_ok_iff.1 h)
    refine ⟨(name, stop'.since c'.pos) :: names', stop'.next, ?_, ?_, hc₁.next hne⟩
    · have hnew' := (lookup_eq_none_congr hnames name).2 hnew
      simp only [readGroupName, show c'.rest = _ from hc, hname', ok_bind, hempty, hnew']
      rfl
    · rw [List.map_cons, List.map_cons, hnames]
  · simp only [hnew] at h
    cases h

/-! ## Openings -/

def Opening.erase : Opening → Opening
  | flags _ items => .flags .nowhere items
  | group _ items => .group .nowhere items

theorem readOpening_plain {names : GroupNames} (h : (c.step verbose).sees '?' = false) :
    readOpening verbose names c = .ok (.group c.charSpan [], names, c.step verbose) := by
  have hnone := Cursor.past?_of_sees h
  simp only [Cursor.step] at hnone
  simp only [readOpening, lookAroundPrefix?, hnone]
  rfl

/-- The place of a group's name. -/
def namePlace? (c : Cursor) : Option Cursor := c.past? ['?', 'P', '<'] <|> c.past? ['?', '<']

theorem rel_orElse {α β : Type} {R : α → β → Prop} {a b : Option α} {a' b' : Option β}
    (h : Option.Rel R a a') (h' : Option.Rel R b b') : Option.Rel R (a <|> b) (a' <|> b') := by
  cases h with
  | some h => exact .some h
  | none => exact h'

theorem rel_lookAroundPrefix? (hc : Prolongs more c c') :
    Option.Rel (Prolongs more) (lookAroundPrefix? c) (lookAroundPrefix? c') :=
  rel_orElse (rel_past? _ (by decide) hc) <| rel_orElse (rel_past? _ (by decide) hc) <|
    rel_orElse (rel_past? _ (by decide) hc) (rel_past? _ (by decide) hc)

theorem rel_namePlace? (hc : Prolongs more c c') :
    Option.Rel (Prolongs more) (namePlace? c) (namePlace? c') :=
  rel_orElse (rel_past? _ (by decide) hc) (rel_past? _ (by decide) hc)

section

variable {names : GroupNames}

theorem toOption_readOpening_lookAround {place : Cursor}
    (h : lookAroundPrefix? (c.step verbose) = some place) :
    (readOpening verbose names c).toOption = none := by
  simp only [Cursor.step] at h
  simp only [readOpening, h]
  rfl

theorem toOption_readOpening_named (hlook : lookAroundPrefix? (c.step verbose) = none)
    {place : Cursor} (hplace : namePlace? (c.step verbose) = some place) :
    (readOpening verbose names c).toOption =
      (readGroupName names place).toOption.map fun (named, cur) =>
        (.group c.charSpan [], named, cur) := by
  simp only [Cursor.step, namePlace?] at hlook hplace
  simp only [readOpening, hlook, hplace, toOption_bind, Option.map_eq_bind]
  rfl

theorem toOption_readOpening_flags (hlook : lookAroundPrefix? (c.step verbose) = none)
    (hplace : namePlace? (c.step verbose) = none) (hmark : (c.step verbose).sees '?' = true) :
    (readOpening verbose names c).toOption =
      if (c.step verbose).next.atEnd then none
      else (readFlagItems (c.step verbose).next.rest (c.step verbose).next []).toOption.bind
        fun (items, stop) =>
          if stop.sees ')' then
            if items.isEmpty then none
            else some (.flags (stop.next.since c.pos) items, names, stop.next)
          else some (.group c.charSpan items, names, stop.next) := by
  have hfirst : (c.step verbose).past? ['?'] = some (c.step verbose).next := by
    rw [Cursor.past?, hmark]
    rfl
  rcases hend : (c.step verbose).next.atEnd with _ | _ <;>
    simp only [Cursor.step, namePlace?] at hlook hplace hfirst hend <;>
    simp only [readOpening, hlook, hplace, hfirst, hend]
  · simp only [Bool.false_eq_true, if_false, toOption_bind]
    refine congrArg _ (funext fun flags => ?_)
    split_ifs <;> rfl
  · rfl

end

section

variable {names names' named : GroupNames} {opening : Opening}
  (hnames : names'.map Prod.fst = names.map Prod.fst)
  (hlook : lookAroundPrefix? (c.step verbose) = none)
  (hlook' : lookAroundPrefix? (c'.step verbose) = none)
  (h : (readOpening verbose names c).toOption = some (opening, named, after))

include hnames hlook hlook' h

theorem prolongs_readOpening_flags (hc : Prolongs more (c.step verbose) (c'.step verbose))
    (hmark : (c.step verbose).sees '?' = true)
    (hplace : namePlace? (c.step verbose) = none) (hplace' : namePlace? (c'.step verbose) = none) :
    ∃ opening' named' after',
      (readOpening verbose names' c').toOption = some (opening', named', after') ∧
        opening'.erase = opening.erase ∧ named'.map Prod.fst = named.map Prod.fst ∧
        Prolongs more after after' := by
  rw [toOption_readOpening_flags hlook hplace hmark] at h
  rw [toOption_readOpening_flags hlook' hplace' ((hc.sees (by decide)).trans hmark)]
  split_ifs at h with hend
  have hc₁ := hc.next (Cursor.rest_ne_nil_of_sees hmark)
  rw [hc₁.atEnd, if_neg Bool.false_ne_true]
  obtain ⟨⟨items, stop⟩, hitems, h⟩ := Option.bind_eq_some_iff.1 h
  obtain ⟨hstop, stop', hitems', hc₂⟩ := prolongs_readFlagItems rfl hc₁ rfl hitems
  rw [show (c'.step verbose).next.rest = _ from hc₁, hitems', Option.bind_some]
  dsimp only at h ⊢
  rw [hc₂.sees_of_ne_nil hstop]
  split_ifs at h ⊢
  · obtain ⟨rfl, rfl, rfl⟩ := by simpa only [Option.some.injEq, Prod.mk.injEq] using h
    exact ⟨_, _, _, rfl, rfl, hnames, hc₂.next hstop⟩
  · obtain ⟨rfl, rfl, rfl⟩ := by simpa only [Option.some.injEq, Prod.mk.injEq] using h
    exact ⟨_, _, _, rfl, rfl, hnames, hc₂.next hstop⟩

theorem prolongs_readOpening_named {place place' : Cursor}
    (hplace : namePlace? (c.step verbose) = some place)
    (hplace' : namePlace? (c'.step verbose) = some place') (hc₁ : Prolongs more place place') :
    ∃ opening' named' after',
      (readOpening verbose names' c').toOption = some (opening', named', after') ∧
        opening'.erase = opening.erase ∧ named'.map Prod.fst = named.map Prod.fst ∧
        Prolongs more after after' := by
  rw [toOption_readOpening_named hlook hplace] at h
  rw [toOption_readOpening_named hlook' hplace']
  obtain ⟨⟨named₁, after₁⟩, hread, heq⟩ := Option.map_eq_some_iff.1 h
  obtain ⟨named', after', hread', hnamed, hc₂⟩ :=
    prolongs_readGroupName hnames hc₁ (toOption_eq_some_iff.1 hread)
  obtain ⟨rfl, rfl, rfl⟩ := by simpa only [Prod.mk.injEq] using heq
  exact ⟨.group c'.charSpan [], _, _, by rw [hread']; rfl, rfl, hnamed, hc₂⟩

end

theorem prolongs_readOpening {names names' named : GroupNames} {opening : Opening}
    (hnames : names'.map Prod.fst = names.map Prod.fst) (hc : Prolongs more c c')
    (hmark : (c.step verbose).sees '?' = true)
    (h : readOpening verbose names c = .ok (opening, named, after)) :
    ∃ opening' named' after', readOpening verbose names' c' = .ok (opening', named', after') ∧
      opening'.erase = opening.erase ∧ named'.map Prod.fst = named.map Prod.fst ∧
      Prolongs more after after' := by
  have hc₁ := hc.step (Cursor.rest_ne_nil_of_sees hmark)
  simp only [← toOption_eq_some_iff] at h ⊢
  have hlook := rel_lookAroundPrefix? hc₁
  rcases hl : lookAroundPrefix? (c.step verbose) with _ | place
  swap
  · rw [toOption_readOpening_lookAround hl] at h
    cases h
  rcases hl' : lookAroundPrefix? (c'.step verbose) with _ | place
  swap
  · rw [hl, hl'] at hlook
    cases hlook
  have hname := rel_namePlace? hc₁
  rcases hp : namePlace? (c.step verbose) with _ | place <;>
    rcases hp' : namePlace? (c'.step verbose) with _ | place' <;> rw [hp, hp'] at hname
  · exact prolongs_readOpening_flags hnames hl hl' h hc₁ hmark hp hp'
  · cases hname
  · cases hname
  · cases hname with
    | some hplace => exact prolongs_readOpening_named hnames hl hl' h hp hp' hplace

theorem settles_readOpening {names named : GroupNames} {opening : Opening} (hne : c.rest ≠ [])
    (h : readOpening verbose names c = .ok (opening, named, after)) :
    Settles (fun v => v.1.erase = opening.erase ∧ v.2.map Prod.fst = named.map Prod.fst) after
      fun more r => ∃ c' names', Prolongs more c c' ∧ names'.map Prod.fst = names.map Prod.fst ∧
        r = (readOpening verbose names' c').map fun (opening, named, cur) =>
          ((opening, named), cur) := by
  rcases hmark : (c.step verbose).sees '?' with _ | _
  · rw [readOpening_plain hmark] at h
    obtain ⟨rfl, rfl, rfl⟩ := by simpa only [Except.ok.injEq, Prod.mk.injEq] using h
    obtain ⟨lost, hlost, hstep⟩ := meets_step verbose hne
    refine ⟨lost, hlost, ?_⟩
    rintro more _ hmore ⟨c', names', hc, hnames, rfl⟩
    have hc₁ := hstep hmore hc
    rw [readOpening_plain ((hc₁.sees (by decide)).trans hmark)]
    exact ⟨_, _, rfl, ⟨rfl, hnames⟩, hc₁⟩
  · refine .of_prolongs ?_
    rintro more _ ⟨c', names', hc, hnames, rfl⟩
    obtain ⟨opening', named', after', hread, hopening, hnamed, hc₁⟩ :=
      prolongs_readOpening hnames hc hmark h
    rw [hread]
    exact ⟨_, _, rfl, ⟨hopening, hnamed⟩, hc₁⟩

/-! ## Counts -/

theorem prolongs_readCount (hc : Prolongs more c c') (hne : (readCount verbose c).2.rest ≠ []) :
    (readCount verbose c').1.toOption = (readCount verbose c).1.toOption ∧
      Prolongs more (readCount verbose c).2 (readCount verbose c').2 := by
  simp only [readCount, skipWhiteSpace] at hne ⊢
  have hdigits := rest_ne_nil_of_takeRun hne
  have hspace := rest_ne_nil_of_takeRun hdigits
  obtain ⟨-, hc₁⟩ := hc.takeRun hspace
  obtain ⟨hsame, hc₂⟩ := hc₁.takeRun hdigits
  obtain ⟨-, hc₃⟩ := hc₂.takeRun hne
  rw [hsame]
  refine ⟨?_, hc₃⟩
  split_ifs <;> rfl

theorem readCount_of_nil (verbose : Bool) (h : c.rest = []) :
    (readCount verbose c).1.toOption = none := by
  simp [readCount, takeRun_of_nil, h]

/-- The bounds of a repetition, read behind the brace that opens them up to the one that closes
them. -/
def bounds? (verbose : Bool) (c : Cursor) : Option (Nat × Option Nat × Cursor) :=
  let (least, stop) := readCount verbose c
  let second := stop.step verbose
  if stop.sees ',' then
    if second.sees '\x7d' then least.toOption.map fun n => (n, none, second)
    else
      let (most, stop) := readCount verbose second
      least.toOption.bind fun n => most.toOption.map fun m => (n, some m, stop)
  else least.toOption.map fun n => (n, some n, stop)

/-- What is read behind the bounds of a repetition: the brace, and a question mark. -/
def closeBounds? (verbose : Bool) : Nat × Option Nat × Cursor → Option (Nat × Option Nat × Cursor)
  | (min, max, stop) =>
    let close := stop.step verbose
    if stop.sees '\x7d' = true ∧ ¬ max.any (· < min) then
      some (min, max, if close.sees '?' then close.next else close)
    else none

theorem closeBounds?_of_nil {min : Nat} {max : Option Nat} (h : c.rest = []) :
    closeBounds? verbose (min, max, c) = none := by
  simp [closeBounds?, Cursor.sees_of_nil h]

theorem toOption_readRange (verbose : Bool) (c : Cursor) :
    (readRange verbose c).toOption =
      (bounds? verbose (c.step verbose)).bind (closeBounds? verbose) := by
  have hclose (bounds : Nat × Option Nat × Cursor) :
      (if (!bounds.2.2.sees '\x7d') = true then none
        else if bounds.2.1.any (· < bounds.1) then none
        else some (bounds.1, bounds.2.1,
          if (bounds.2.2.step verbose).sees '?' then (bounds.2.2.step verbose).next
          else bounds.2.2.step verbose)) = closeBounds? verbose bounds := by
    rw [closeBounds?]
    cases bounds.2.2.sees '\x7d' <;> cases bounds.2.1.any (· < bounds.1) <;> rfl
  simp only [readRange, apply_ite Except.toOption, toOption_bind, toOption_throw, Option.bind_none,
    toOption_pure, hclose]
  simp only [Option.bind_some, bounds?]
  generalize c.step verbose = first
  rcases hend : first.atEnd with _ | _
  swap
  · have hcount := readCount_of_nil verbose (List.isEmpty_iff.1 hend)
    simp [hcount]
  generalize (readCount verbose first).1.toOption = least?, (readCount verbose first).2 = stop
  rcases hend : stop.atEnd with _ | _
  swap
  · have hnil := List.isEmpty_iff.1 hend
    cases least? <;> simp [Cursor.sees_of_nil hnil, closeBounds?_of_nil hnil]
  rcases hend : (stop.step verbose).atEnd with _ | _
  swap
  · have hnil := List.isEmpty_iff.1 hend
    rcases stop.sees ',' with _ | _ <;> cases least? <;>
      simp [Cursor.sees_of_nil hnil, readCount_of_nil _ hnil]
  rcases stop.sees ',' with _ | _
  · cases least? <;> simp
  · rcases (stop.step verbose).sees '\x7d' with _ | _
    · generalize (readCount verbose (stop.step verbose)).1.toOption = most?
      cases least? <;> cases most? <;> simp
    · cases least? <;> simp

theorem prolongs_bounds? {min : Nat} {max : Option Nat} {stop : Cursor} (hc : Prolongs more c c')
    (h : bounds? verbose c = some (min, max, stop)) (hne : stop.rest ≠ []) :
    ∃ stop', bounds? verbose c' = some (min, max, stop') ∧ Prolongs more stop stop' := by
  simp only [bounds?] at h ⊢
  rcases hcomma : (readCount verbose c).2.sees ',' with _ | _
  · simp only [hcomma, Bool.false_eq_true, if_false] at h
    obtain ⟨n, hn, heq⟩ := Option.map_eq_some_iff.1 h
    obtain ⟨rfl, rfl, rfl⟩ := by simpa only [Prod.mk.injEq] using heq
    obtain ⟨hsame, hc₁⟩ := prolongs_readCount hc hne
    rw [hc₁.sees (by decide), hcomma, hsame, hn]
    exact ⟨_, rfl, hc₁⟩
  · obtain ⟨hsame, hc₁⟩ := prolongs_readCount hc (Cursor.rest_ne_nil_of_sees hcomma)
    rw [hc₁.sees (by decide), hcomma, hsame]
    simp only [hcomma, if_true] at h ⊢
    rcases hbrace : ((readCount verbose c).2.step verbose).sees '\x7d' with _ | _
    · simp only [hbrace, Bool.false_eq_true, if_false] at h
      obtain ⟨n, hn, h⟩ := Option.bind_eq_some_iff.1 h
      obtain ⟨m, hm, heq⟩ := Option.map_eq_some_iff.1 h
      obtain ⟨rfl, rfl, rfl⟩ := by simpa only [Prod.mk.injEq] using heq
      have hsecond : ((readCount verbose c).2.step verbose).rest ≠ [] := by
        intro hnil
        rw [readCount_of_nil _ hnil] at hm
        cases hm
      have hc₂ := hc₁.step hsecond
      obtain ⟨hsame₂, hc₃⟩ := prolongs_readCount hc₂ hne
      rw [hc₂.sees (by decide), hbrace, hn, hsame₂, hm]
      exact ⟨_, rfl, hc₃⟩
    · simp only [hbrace, if_true] at h
      obtain ⟨n, hn, heq⟩ := Option.map_eq_some_iff.1 h
      obtain ⟨rfl, rfl, rfl⟩ := by simpa only [Prod.mk.injEq] using heq
      have hc₂ := hc₁.step hne
      rw [hc₂.sees (by decide), hbrace, hn]
      exact ⟨_, rfl, hc₂⟩

theorem rest_ne_nil_of_bounds? {v : Nat × Option Nat × Cursor} (h : bounds? verbose c = some v) :
    c.rest ≠ [] := by
  intro hnil
  simp [bounds?, readCount_of_nil _ hnil] at h

theorem settles_readRange {min : Nat} {max : Option Nat}
    (h : readRange verbose c = .ok (min, max, after)) :
    Settles (· = (min, max)) after fun more r => ∃ c', Prolongs more c c' ∧
      r = (readRange verbose c').map fun (min, max, cur) => ((min, max), cur) := by
  rw [← toOption_eq_some_iff, toOption_readRange] at h
  obtain ⟨⟨min, max, stop⟩, hbounds, h⟩ := Option.bind_eq_some_iff.1 h
  have hfirst := rest_ne_nil_of_bounds? hbounds
  rw [closeBounds?] at h
  obtain ⟨hbrace, h⟩ := Option.ite_none_right_eq_some.1 h
  obtain ⟨rfl, rfl, rfl⟩ := by simpa only [Option.some.injEq, Prod.mk.injEq] using h
  have hstop := Cursor.rest_ne_nil_of_sees hbrace.1
  obtain ⟨lost, hlost, hstep⟩ := meets_step verbose hstop
  refine ⟨lost, fun hl => ?_, ?_⟩
  · rw [Cursor.sees_of_nil (hlost hl), if_neg Bool.false_ne_true]
    exact hlost hl
  · rintro more _ hmore ⟨c', hc, rfl⟩
    obtain ⟨stop', hbounds', hc₁⟩ := prolongs_bounds? (hc.step hfirst) hbounds hstop
    have hread := toOption_readRange verbose c'
    rw [hbounds', Option.bind_some, closeBounds?,
      if_pos ⟨(hc₁.sees (by decide)).trans hbrace.1, hbrace.2⟩, toOption_eq_some_iff] at hread
    rw [hread]
    exact ⟨_, _, rfl, rfl, (hstep hmore hc₁).pass (by decide)⟩

end SchemaSieve.Regex
