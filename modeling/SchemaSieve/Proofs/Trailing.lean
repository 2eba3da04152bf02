import Mathlib.Tactic
import SchemaSieve.Proofs.Spans
import SchemaSieve.Regex.Parser

/-!
# What stands behind a pattern

A pattern may be read alone, or with a closing parenthesis and more text behind it. As long as
reading it alone does not fail, both ways go the same steps, and the cursors differ by what stands
behind (`Prolongs`). There is one exception: a comment of verbose mode that no line feed ends takes
in what stands behind, so that both cursors come to their ends (`Meets`). Which of these it is hangs
on the pattern alone (`Settles`).
-/

namespace SchemaSieve.Regex

/-- Whether a cursor has before it what another one has, and then a closing parenthesis and more. -/
def Prolongs (more : List Char) (c c' : Cursor) : Prop := c'.rest = c.rest ++ ')' :: more

/-- Whether two cursors go on alike: if what stands behind is lost in a comment, both are at their
ends. -/
def Meets (lost : Bool) (more : List Char) (c c' : Cursor) : Prop :=
  if lost then c.rest = [] ∧ c'.rest = [] else Prolongs more c c'

/-- Whether a comment can take in all that stands behind. -/
def Admits (lost : Bool) (more : List Char) : Prop := lost = true → '\n' ∉ more

/-- Whether something that was read alone, up to a cursor, is also read where more stands behind:
`behind more r` holds of the results that are found there. -/
def Settles {α : Type} (same : α → Prop) (c : Cursor)
    (behind : List Char → Except Fault (α × Cursor) → Prop) : Prop :=
  ∃ lost : Bool, (lost = true → c.rest = []) ∧ ∀ more r, Admits lost more → behind more r →
    ∃ v c', r = .ok (v, c') ∧ same v ∧ Meets lost more c c'

/-- Where something is left to read, nothing was lost. -/
theorem Settles.prolongs {α : Type} {same : α → Prop} {c : Cursor}
    {behind : List Char → Except Fault (α × Cursor) → Prop} (h : Settles same c behind)
    (hne : c.rest ≠ []) {more : List Char} {r : Except Fault (α × Cursor)} (hr : behind more r) :
    ∃ v c', r = .ok (v, c') ∧ same v ∧ Prolongs more c c' := by
  obtain ⟨lost, hlost, h⟩ := h
  cases lost with
  | true => exact absurd (hlost rfl) hne
  | false => exact h more r (fun hf => Bool.noConfusion hf) hr

/-- What is made of a result that settles, settles too. -/
theorem Settles.imp {α β : Type} {same : α → Prop} {same' : β → Prop} {c : Cursor}
    {behind : List Char → Except Fault (α × Cursor) → Prop}
    {behind' : List Char → Except Fault (β × Cursor) → Prop} (h : Settles same c behind)
    (himp : ∀ more r', behind' more r' → ∃ r, behind more r ∧ ∀ v c', r = .ok (v, c') → same v →
      ∃ v', r' = .ok (v', c') ∧ same' v') : Settles same' c behind' := by
  obtain ⟨lost, hlost, h⟩ := h
  refine ⟨lost, hlost, fun more r' hmore hr' => ?_⟩
  obtain ⟨r, hr, hmap⟩ := himp more r' hr'
  obtain ⟨v, c', rfl, hv, hc⟩ := h more r hmore hr
  obtain ⟨v', rfl, hv'⟩ := hmap v c' rfl hv
  exact ⟨v', c', rfl, hv', hc⟩

namespace Cursor

variable {c c' : Cursor} {verbose : Bool}

theorem peek?_eq_some_iff {x : Char} : c.peek? = some x ↔ ∃ rest, c.rest = x :: rest := by
  rw [peek?, List.head?_eq_some_iff]

theorem peek?_eq_none_iff : c.peek? = none ↔ c.rest = [] := List.head?_eq_none_iff

theorem atEnd_eq_false_iff : c.atEnd = false ↔ c.rest ≠ [] := by
  rw [atEnd, List.isEmpty_eq_false_iff]

theorem rest_ne_nil_of_peek? {x : Char} (h : c.peek? = some x) : c.rest ≠ [] := by
  rintro hnil
  rw [peek?_eq_none_iff.2 hnil] at h
  cases h

theorem rest_ne_nil_of_sees {x : Char} (h : c.sees x = true) : c.rest ≠ [] := by
  rintro hnil
  simp [sees, peek?, hnil] at h

theorem rest_next (c : Cursor) : c.next.rest = c.rest.tail := by
  obtain ⟨p, _ | ⟨x, rest⟩⟩ := c <;> rfl

theorem rest_ne_nil_of_next (h : c.next.rest ≠ []) : c.rest ≠ [] := by
  intro hnil
  rw [rest_next, hnil] at h
  exact h rfl

theorem rest_skipSpace_of_nil (verbose : Bool) (h : c.rest = []) :
    (c.skipSpace verbose).rest = [] := by
  cases verbose <;> simp [skipSpace, skipBlanks, h]

theorem rest_ne_nil_of_skipSpace (h : (c.skipSpace verbose).rest ≠ []) : c.rest ≠ [] :=
  fun hnil => h (rest_skipSpace_of_nil verbose hnil)

theorem rest_ne_nil_of_step (h : (c.step verbose).rest ≠ []) : c.rest ≠ [] :=
  rest_ne_nil_of_next (rest_ne_nil_of_skipSpace h)

theorem skipBlanks_suffix :
    ∀ (cs : List Char) (inComment : Bool) (p : Position), (skipBlanks inComment p cs).rest <:+ cs
  | [], _, _ => List.suffix_rfl
  | x :: cs, inComment, p => by
    unfold skipBlanks
    split_ifs
    · exact (skipBlanks_suffix cs _ _).trans (List.suffix_cons x cs)
    · exact (skipBlanks_suffix cs _ _).trans (List.suffix_cons x cs)
    · exact (skipBlanks_suffix cs _ _).trans (List.suffix_cons x cs)
    · exact List.suffix_rfl

theorem skipSpace_suffix (verbose : Bool) (c : Cursor) : (c.skipSpace verbose).rest <:+ c.rest := by
  unfold skipSpace
  split_ifs
  · exact skipBlanks_suffix _ _ _
  · exact List.suffix_rfl

/-- A step takes at least one character. -/
theorem rest_step_length_lt (verbose : Bool) (hne : c.rest ≠ []) :
    (c.step verbose).rest.length < c.rest.length := by
  have hskip := (c.next.skipSpace_suffix verbose).length_le
  have hpos := List.length_pos_of_ne_nil hne
  rw [rest_next, List.length_tail] at hskip
  rw [step]
  omega

end Cursor

/-! ## Cursors -/

section

variable {more : List Char} {c c' : Cursor} {verbose : Bool} {x : Char}

theorem isWhiteSpace_closing : Text.isWhiteSpace ')' = false := by decide

namespace Prolongs

theorem rest_ne_nil (h : Prolongs more c c') : c'.rest ≠ [] := by
  rw [show c'.rest = _ from h]
  simp

theorem atEnd (h : Prolongs more c c') : c'.atEnd = false :=
  Cursor.atEnd_eq_false_iff.2 h.rest_ne_nil

theorem peek? (h : Prolongs more c c') (hx : c.peek? = some x) : c'.peek? = some x := by
  obtain ⟨rest, hrest⟩ := Cursor.peek?_eq_some_iff.1 hx
  exact Cursor.peek?_eq_some_iff.2 ⟨_, by rw [show c'.rest = _ from h, hrest, List.cons_append]⟩

theorem sees (h : Prolongs more c c') (hx : x ≠ ')') : c'.sees x = c.sees x := by
  have hrest : c'.rest = c.rest ++ ')' :: more := h
  rcases hc : c.rest with _ | ⟨y, rest⟩
  · simp [Cursor.sees, Cursor.peek?, hrest, hc, hx.symm]
  · simp [Cursor.sees, Cursor.peek?, hrest, hc]

theorem next (h : Prolongs more c c') (hne : c.rest ≠ []) : Prolongs more c.next c'.next := by
  rw [Prolongs, Cursor.rest_next, Cursor.rest_next, show c'.rest = _ from h,
    List.tail_append_of_ne_nil hne]

end Prolongs

/-- A comment that no line feed ends takes in the whole rest. -/
theorem Cursor.rest_skipBlanks_comment :
    ∀ {cs : List Char} (p : Position), '\n' ∉ cs → (Cursor.skipBlanks true p cs).rest = []
  | [], _, _ => rfl
  | x :: cs, p, h => by
    rw [List.mem_cons, not_or] at h
    have hx : (x != '\n') = true := by simpa using fun heq : x = '\n' => h.1 heq.symm
    rw [skipBlanks, if_pos rfl, hx]
    exact rest_skipBlanks_comment _ h.2

/-- Skipping blanks comes to the same place, or is lost in a comment. -/
theorem meets_skipBlanks (cs : List Char) (inComment : Bool) (p : Position) :
    ∃ lost : Bool, (lost = true → (Cursor.skipBlanks inComment p cs).rest = []) ∧
      ∀ more p', Admits lost more → Meets lost more (Cursor.skipBlanks inComment p cs)
        (Cursor.skipBlanks inComment p' (cs ++ ')' :: more)) := by
  induction cs generalizing inComment p with
  | nil =>
    cases inComment with
    | true =>
      refine ⟨true, fun _ => rfl, fun more p' hmore => ⟨rfl, ?_⟩⟩
      refine Cursor.rest_skipBlanks_comment p' fun hmem => ?_
      exact hmore rfl ((List.mem_cons.1 hmem).resolve_left (by decide))
    | false =>
      refine ⟨false, fun h => Bool.noConfusion h, fun more p' _ => ?_⟩
      simp [Meets, Prolongs, Cursor.skipBlanks, isWhiteSpace_closing]
  | cons x cs ih =>
    simp only [List.cons_append, Cursor.skipBlanks]
    split_ifs
    · obtain ⟨lost, hlost, h⟩ := ih (x != '\n') (p.after x)
      exact ⟨lost, hlost, fun more p' => h more _⟩
    · obtain ⟨lost, hlost, h⟩ := ih false (p.after x)
      exact ⟨lost, hlost, fun more p' => h more _⟩
    · obtain ⟨lost, hlost, h⟩ := ih true (p.after x)
      exact ⟨lost, hlost, fun more p' => h more _⟩
    · exact ⟨false, fun h => Bool.noConfusion h, fun more p' _ => rfl⟩

theorem meets_skipSpace (verbose : Bool) (c : Cursor) :
    ∃ lost : Bool, (lost = true → (c.skipSpace verbose).rest = []) ∧
      ∀ {more : List Char} {c' : Cursor}, Admits lost more → Prolongs more c c' →
        Meets lost more (c.skipSpace verbose) (c'.skipSpace verbose) := by
  cases verbose with
  | false => exact ⟨false, fun hf => Bool.noConfusion hf, fun _ hc => hc⟩
  | true =>
    obtain ⟨lost, hlost, h⟩ := meets_skipBlanks c.rest false c.pos
    refine ⟨lost, hlost, fun {more c'} hmore hc => ?_⟩
    simp only [Cursor.skipSpace, if_true, show c'.rest = _ from hc]
    exact h more c'.pos hmore

theorem meets_step (verbose : Bool) (hne : c.rest ≠ []) :
    ∃ lost : Bool, (lost = true → (c.step verbose).rest = []) ∧
      ∀ {more : List Char} {c' : Cursor}, Admits lost more → Prolongs more c c' →
        Meets lost more (c.step verbose) (c'.step verbose) := by
  obtain ⟨lost, hlost, h⟩ := meets_skipSpace verbose c.next
  exact ⟨lost, hlost, fun hmore hc => h hmore (hc.next hne)⟩

theorem settles_step (verbose : Bool) (hne : c.rest ≠ []) :
    Settles (fun _ : Unit => True) (c.step verbose) fun more r =>
      ∃ c', Prolongs more c c' ∧ r = .ok ((), c'.step verbose) := by
  obtain ⟨lost, hlost, h⟩ := meets_step verbose hne
  refine ⟨lost, hlost, ?_⟩
  rintro more _ hmore ⟨c', hc, rfl⟩
  exact ⟨(), _, rfl, trivial, h hmore hc⟩

namespace Prolongs

theorem skipSpace (h : Prolongs more c c') (hne : (c.skipSpace verbose).rest ≠ []) :
    Prolongs more (c.skipSpace verbose) (c'.skipSpace verbose) := by
  obtain ⟨lost, hlost, hmeet⟩ := meets_skipSpace verbose c
  cases lost with
  | true => exact absurd (hlost rfl) hne
  | false => exact hmeet (fun hf => Bool.noConfusion hf) h

theorem step (h : Prolongs more c c') (hne : (c.step verbose).rest ≠ []) :
    Prolongs more (c.step verbose) (c'.step verbose) :=
  (h.next (Cursor.rest_ne_nil_of_step hne)).skipSpace hne

end Prolongs

/-- A text without parentheses is found in the one place exactly if it is found in the other. -/
theorem rel_past? :
    ∀ (xs : List Char) {c c' : Cursor}, ')' ∉ xs → Prolongs more c c' →
      Option.Rel (Prolongs more) (c.past? xs) (c'.past? xs)
  | [], _, _, _, h => .some h
  | x :: xs, c, c', hxs, h => by
    rw [List.mem_cons, not_or] at hxs
    rw [Cursor.past?, Cursor.past?, h.sees (Ne.symm hxs.1)]
    split_ifs with hx
    · exact rel_past? xs hxs.2 (h.next (Cursor.rest_ne_nil_of_sees hx))
    · exact .none

theorem takeRunWithin_of_peek? {p : Char → Bool} (hx : c.peek? = some x) (fuel : Nat) :
    c.takeRunWithin verbose p (fuel + 1) =
      if p x then (x :: ((c.step verbose).takeRunWithin verbose p fuel).1,
        ((c.step verbose).takeRunWithin verbose p fuel).2)
      else ([], c) := by
  rw [Cursor.takeRunWithin, hx]

theorem takeRunWithin_of_nil {p : Char → Bool} (hnil : c.rest = []) (fuel : Nat) :
    c.takeRunWithin verbose p fuel = ([], c) := by
  cases fuel with
  | zero => rfl
  | succ fuel => rw [Cursor.takeRunWithin, Cursor.peek?_eq_none_iff.2 hnil]

theorem takeRun_of_nil {p : Char → Bool} (hnil : c.rest = []) : c.takeRun verbose p = ([], c) :=
  takeRunWithin_of_nil hnil _

/-- A run that ends before the end of the pattern is the same. -/
theorem takeRunWithin_prolongs {p : Char → Bool} :
    ∀ (fuel fuel' : Nat) {c c' : Cursor}, Prolongs more c c' → c.rest.length ≤ fuel →
      c'.rest.length ≤ fuel' → (c.takeRunWithin verbose p fuel).2.rest ≠ [] →
      (c'.takeRunWithin verbose p fuel').1 = (c.takeRunWithin verbose p fuel).1 ∧
        Prolongs more (c.takeRunWithin verbose p fuel).2 (c'.takeRunWithin verbose p fuel').2
  | 0, _, _, _, _, hfuel, _, hne =>
    absurd (List.eq_nil_of_length_eq_zero (Nat.le_zero.1 hfuel)) hne
  | _, 0, _, _, h, _, hfuel', _ =>
    absurd (List.eq_nil_of_length_eq_zero (Nat.le_zero.1 hfuel')) h.rest_ne_nil
  | fuel + 1, fuel' + 1, c, c', h, hfuel, hfuel', hne => by
    rcases hx : c.peek? with _ | x
    · rw [takeRunWithin_of_nil (Cursor.peek?_eq_none_iff.1 hx)] at hne
      exact absurd (Cursor.peek?_eq_none_iff.1 hx) hne
    · rw [takeRunWithin_of_peek? hx] at hne ⊢
      rw [takeRunWithin_of_peek? (h.peek? hx)]
      split_ifs at hne ⊢ with hp
      · -- The step is not lost in a comment, or the run would end at the end of the pattern.
        have hstep : (c.step verbose).rest ≠ [] := by
          intro hnil
          rw [takeRunWithin_of_nil hnil] at hne
          exact hne hnil
        have hlt := Cursor.rest_step_length_lt verbose (Cursor.rest_ne_nil_of_step hstep)
        have hlt' := Cursor.rest_step_length_lt verbose h.rest_ne_nil
        obtain ⟨hxs, hrest⟩ := takeRunWithin_prolongs fuel fuel' (h.step hstep)
          (by omega) (by omega) hne
        exact ⟨congrArg (x :: ·) hxs, hrest⟩
      · exact ⟨rfl, h⟩

theorem Prolongs.takeRun {p : Char → Bool} (h : Prolongs more c c')
    (hne : (c.takeRun verbose p).2.rest ≠ []) :
    (c'.takeRun verbose p).1 = (c.takeRun verbose p).1 ∧
      Prolongs more (c.takeRun verbose p).2 (c'.takeRun verbose p).2 :=
  takeRunWithin_prolongs _ _ h le_rfl le_rfl hne

theorem rest_ne_nil_of_takeRun {p : Char → Bool} (hne : (c.takeRun verbose p).2.rest ≠ []) :
    c.rest ≠ [] := by
  intro hnil
  rw [takeRun_of_nil hnil] at hne
  exact hne hnil

end

/-! ## Results of reading -/

section

variable {ε α β : Type} {v : β} {e : ε}

theorem bind_eq_ok_iff {x : Except ε α} {k : α → Except ε β} :
    x >>= k = .ok v ↔ ∃ a, x = .ok a ∧ k a = .ok v := by
  cases x <;> simp [bind, Except.bind]

theorem ok_bind (a : α) (k : α → Except ε β) : (Except.ok a : Except ε α) >>= k = k a := rfl

theorem map_eq_ok_iff {x : Except ε α} {f : α → β} :
    x.map f = .ok v ↔ ∃ a, x = .ok a ∧ f a = v := by
  cases x <;> simp [Except.map]

theorem pure_eq_ok_iff {v' : β} : (pure v' : Except ε β) = .ok v ↔ v' = v := by
  simp [pure, Except.pure]

/-- Reading goes on if what is guarded against is not the case. -/
theorem guard_eq_ok_iff {p : Prop} [Decidable p] {k : α → Except ε β} {x : Except ε β} :
    (if p then (throw e : Except ε α) >>= k else x) = .ok v ↔ ¬ p ∧ x = .ok v := by
  split_ifs with h <;> simp [h, throw, throwThe, MonadExceptOf.throw, bind, Except.bind]

end

/-! ## Escapes -/

section

variable {more : List Char} {c c' after : Cursor} {verbose : Bool} {x : Char}

theorem readHexDigits_succ (hx : c.peek? = some x) (count : Nat) :
    readHexDigits verbose (count + 1) c =
      if (hexDigit? x).isNone then .error ⟨.hexInvalidDigit, c.charSpan, none⟩
      else (readHexDigits verbose count (c.step verbose)).map fun (ds, c) => (x :: ds, c) := by
  rw [readHexDigits, hx]
  rfl

theorem settles_readHexDigits :
    ∀ (count : Nat) {c after : Cursor} {digits : List Char},
      readHexDigits verbose count c = .ok (digits, after) →
      Settles (· = digits) after fun more r =>
        ∃ c', Prolongs more c c' ∧ r = readHexDigits verbose count c'
  | 0, c, after, digits, h => by
    obtain ⟨rfl, rfl⟩ := Prod.mk.inj (Except.ok.inj h)
    refine ⟨false, fun hf => Bool.noConfusion hf, ?_⟩
    rintro more _ - ⟨c', hc, rfl⟩
    exact ⟨_, c', rfl, rfl, hc⟩
  | count + 1, c, after, digits, h => by
    rcases hx : c.peek? with _ | x
    · rw [readHexDigits, hx] at h
      cases h
    rw [readHexDigits_succ hx] at h
    split_ifs at h with hhex
    obtain ⟨⟨ds, after'⟩, hds, heq⟩ := map_eq_ok_iff.1 h
    obtain ⟨rfl, rfl⟩ := Prod.mk.inj heq
    have hread : ∀ {more : List Char} {c' : Cursor}, Prolongs more c c' →
        readHexDigits verbose (count + 1) c'
          = (readHexDigits verbose count (c'.step verbose)).map fun (ds, c) => (x :: ds, c) := by
      intro more c' hc
      rw [readHexDigits_succ (hc.peek? hx), if_neg hhex]
    by_cases hend : (c.step verbose).rest = []
    · -- Only the last digit can stand before the end.
      rcases count with _ | count
      · obtain ⟨rfl, rfl⟩ := Prod.mk.inj (Except.ok.inj hds)
        refine (settles_step verbose (Cursor.rest_ne_nil_of_peek? hx)).imp ?_
        rintro more _ ⟨c', hc, rfl⟩
        refine ⟨_, ⟨c', hc, rfl⟩, fun _ c₁ hr _ => ⟨[x], ?_, rfl⟩⟩
        obtain ⟨-, rfl⟩ := Prod.mk.inj (Except.ok.inj hr)
        exact hread hc
      · rw [readHexDigits, Cursor.peek?_eq_none_iff.2 hend] at hds
        cases hds
    · refine (settles_readHexDigits count hds).imp ?_
      rintro more _ ⟨c', hc, rfl⟩
      refine ⟨_, ⟨c'.step verbose, hc.step hend, rfl⟩, fun ds' c₁ hr hds' => ⟨x :: ds', ?_, ?_⟩⟩
      · rw [hread hc, hr]
        rfl
      · rw [hds']

theorem settles_readHex {start : Position} {letter : Char} {l : Literal}
    (h : readHex verbose start letter c = .ok (l, after)) :
    Settles (·.erase = l.erase) after fun more r =>
      ∃ c' start', Prolongs more c c' ∧ r = readHex verbose start' letter c' := by
  simp only [readHex, guard_eq_ok_iff, Bool.not_eq_true] at h
  obtain ⟨hend, h⟩ := h
  have hfirst := Cursor.atEnd_eq_false_iff.1 hend
  split at h
  · rename_i hbrace
    simp only [guard_eq_ok_iff, Bool.not_eq_true, Bool.not_eq_false'] at h
    obtain ⟨hrun, hclose, hdigits, h⟩ := h
    have hrun := Cursor.atEnd_eq_false_iff.1 hrun
    split at h
    · cases h
    · rename_i char hchar
      obtain ⟨rfl, rfl⟩ := Prod.mk.inj (pure_eq_ok_iff.1 h)
      refine (settles_step verbose hrun).imp ?_
      rintro more _ ⟨c', start', hc, rfl⟩
      have hc₁ := hc.step hfirst
      obtain ⟨hxs, hc₂⟩ := (hc₁.step (rest_ne_nil_of_takeRun hrun)).takeRun hrun
      refine ⟨_, ⟨_, hc₂, rfl⟩, fun _ c₁ hr _ => ⟨⟨⟨start', c₁.pos⟩, char, false⟩, ?_, rfl⟩⟩
      obtain ⟨-, rfl⟩ := Prod.mk.inj (Except.ok.inj hr)
      have hclose' := (hc₂.sees (x := '\x7d') (by decide)).trans hclose
      have hbrace' := (hc₁.sees (x := '\x7b') (by decide)).trans hbrace
      simp [readHex, hc₁.atEnd, hbrace', hc₂.atEnd, hclose', hxs, hdigits, hchar, pure_eq_ok_iff]
  · rename_i hbrace
    obtain ⟨⟨digits, stop⟩, hdigits, h⟩ := bind_eq_ok_iff.1 h
    dsimp only at h
    split at h
    · cases h
    · rename_i char hchar
      obtain ⟨rfl, rfl⟩ := Prod.mk.inj (pure_eq_ok_iff.1 h)
      refine (settles_readHexDigits _ hdigits).imp ?_
      rintro more _ ⟨c', start', hc, rfl⟩
      have hc₁ := hc.step hfirst
      refine ⟨_, ⟨_, hc₁, rfl⟩, fun ds c₁ hr hds =>
        ⟨⟨⟨start', c₁.pos⟩, char, letter = 'x'⟩, ?_, rfl⟩⟩
      have hbrace' := hc₁.sees (x := '\x7b') (by decide)
      simp [readHex, hc₁.atEnd, hbrace', hbrace, hr, hds, ok_bind, hchar, pure_eq_ok_iff]

def Primitive.erase : Primitive → Primitive
  | literal l => .literal l.erase
  | dot _ => .dot .nowhere
  | assertion _ kind => .assertion .nowhere kind
  | perl _ name negated => .perl .nowhere name negated
  | property _ query negated => .property .nowhere query negated

/-- What does not end in a comment settles if it is read to the same place. -/
theorem Settles.of_prolongs {α : Type} {same : α → Prop} {c : Cursor}
    {behind : List Char → Except Fault (α × Cursor) → Prop}
    (h : ∀ more r, behind more r → ∃ v c', r = .ok (v, c') ∧ same v ∧ Prolongs more c c') :
    Settles same c behind :=
  ⟨false, fun hf => Bool.noConfusion hf, fun more r _ hr => h more r hr⟩

theorem readProperty_braced {start : Position} {negated : Bool}
    (hbrace : (c.step verbose).peek? = some '\x7b') :
    readProperty verbose start negated c =
      let run := ((c.step verbose).step verbose).takeRun verbose (· != '\x7d')
      if run.2.atEnd then .error ⟨.escapeUnexpectedEnd, run.2.here, none⟩
      else .ok (.property ⟨start, run.2.next.pos⟩ (propertyQuery run.1).1
        (negated != (propertyQuery run.1).2), run.2.next) := by
  rw [readProperty, hbrace]
  dsimp only
  split_ifs <;> rfl

theorem readProperty_letter {start : Position} {negated : Bool}
    (hx : (c.step verbose).peek? = some x) (hbrace : x ≠ '\x7b') (hslash : x ≠ '\\') :
    readProperty verbose start negated c =
      .ok (.property ⟨start, ((c.step verbose).step verbose).pos⟩ (.named (String.singleton x))
        negated, (c.step verbose).step verbose) := by
  simp only [readProperty, hx]
  rfl

theorem settles_readProperty {start : Position} {negated : Bool} {p : Primitive}
    (h : readProperty verbose start negated c = .ok (p, after)) :
    Settles (·.erase = p.erase) after fun more r =>
      ∃ c' start', Prolongs more c c' ∧ r = readProperty verbose start' negated c' := by
  rcases hx : (c.step verbose).peek? with _ | x
  · simp only [readProperty, hx] at h
    cases h
  have hfirst := Cursor.rest_ne_nil_of_peek? hx
  by_cases hbrace : x = '\x7b'
  · subst hbrace
    rw [readProperty_braced hx] at h
    dsimp only at h
    split_ifs at h with hend
    obtain ⟨rfl, rfl⟩ := Prod.mk.inj (Except.ok.inj h)
    have hrun := Cursor.atEnd_eq_false_iff.1 (Bool.not_eq_true _ ▸ hend)
    refine .of_prolongs ?_
    rintro more _ ⟨c', start', hc, rfl⟩
    have hc₁ := hc.step hfirst
    obtain ⟨hxs, hc₂⟩ := (hc₁.step (rest_ne_nil_of_takeRun hrun)).takeRun hrun
    refine ⟨_, _, (readProperty_braced (hc₁.peek? hx)).trans (if_neg ?_), ?_, hc₂.next hrun⟩
    · simp [hc₂.atEnd]
    · simp only [Primitive.erase, hxs]
  by_cases hslash : x = '\\'
  · subst hslash
    simp only [readProperty, hx] at h
    cases h
  · rw [readProperty_letter hx hbrace hslash] at h
    obtain ⟨rfl, rfl⟩ := Prod.mk.inj (Except.ok.inj h)
    refine (settles_step verbose hfirst).imp ?_
    rintro more _ ⟨c', start', hc, rfl⟩
    have hc₁ := hc.step hfirst
    refine ⟨_, ⟨_, hc₁, rfl⟩, fun _ c₁ hr _ => ?_⟩
    obtain ⟨-, rfl⟩ := Prod.mk.inj (Except.ok.inj hr)
    exact ⟨_, readProperty_letter (hc₁.peek? hx) hbrace hslash, rfl⟩

theorem readBoundary_plain {start : Position} (hbrace : c.sees '\x7b' = false) :
    readBoundary verbose start c = .ok (.assertion (c.since start) .wordBoundary, c) := by
  simp only [readBoundary, hbrace]
  rfl

theorem readBoundary_of_peek? {start : Position} (hbrace : c.sees '\x7b' = true)
    (hx : (c.step verbose).peek? = some x) :
    readBoundary verbose start c =
      if x.isAlpha || x == '-' then
        let run := (c.step verbose).takeRun verbose fun x => x.isAlpha || x == '-'
        if run.2.sees '\x7d' then
          match specialBoundary? (String.ofList run.1) with
          | none => .error ⟨.wordBoundaryUnrecognized, run.2.since (c.step verbose).pos, none⟩
          | some kind => .ok (.assertion (run.2.next.since start) kind, run.2.next)
        else .error ⟨.wordBoundaryUnclosed, run.2.since c.pos, none⟩
      else .ok (.assertion (c.since start) .wordBoundary, c) := by
  simp only [readBoundary, hbrace, hx]
  rcases hletter : x.isAlpha || x == '-' with _ | _
  · rfl
  · rcases hclose : ((c.step verbose).takeRun verbose fun x => x.isAlpha || x == '-').2.sees '\x7d'
    · rfl
    · rcases specialBoundary? _ <;> rfl

theorem settles_readBoundary {start : Position} {p : Primitive}
    (h : readBoundary verbose start c = .ok (p, after)) :
    Settles (·.erase = p.erase) after fun more r =>
      ∃ c' start', Prolongs more c c' ∧ r = readBoundary verbose start' c' := by
  refine .of_prolongs ?_
  rintro more _ ⟨c', start', hc, rfl⟩
  have hbrace' := hc.sees (x := '\x7b') (by decide)
  rcases hbrace : c.sees '\x7b' with _ | _
  · rw [readBoundary_plain hbrace] at h
    obtain ⟨rfl, rfl⟩ := Prod.mk.inj (Except.ok.inj h)
    exact ⟨_, _, readBoundary_plain (hbrace'.trans hbrace), rfl, hc⟩
  rcases hx : (c.step verbose).peek? with _ | x
  · simp only [readBoundary, hbrace, hx] at h
    cases h
  have hc₁ := hc.step (Cursor.rest_ne_nil_of_peek? hx)
  rw [readBoundary_of_peek? hbrace hx] at h
  rw [readBoundary_of_peek? (hbrace'.trans hbrace) (hc₁.peek? hx)]
  dsimp only at h ⊢
  split_ifs at h with hletter hclose
  · have hrun := Cursor.rest_ne_nil_of_sees hclose
    obtain ⟨hxs, hc₂⟩ := hc₁.takeRun hrun
    rw [if_pos hletter, if_pos ((hc₂.sees (by decide)).trans hclose), hxs]
    split at h
    · cases h
    · obtain ⟨rfl, rfl⟩ := Prod.mk.inj (Except.ok.inj h)
      exact ⟨_, _, rfl, rfl, hc₂.next hrun⟩
  · obtain ⟨rfl, rfl⟩ := Prod.mk.inj (Except.ok.inj h)
    rw [if_neg hletter]
    exact ⟨_, _, rfl, rfl, hc⟩

theorem readEscape_of_peek? (hx : c.next.peek? = some x) :
    readEscape verbose c =
      if x.isDigit then .error ⟨.backreference, c.next.next.since c.pos, none⟩
      else if x = 'x' ∨ x = 'u' ∨ x = 'U' then
        (readHex verbose c.pos x c.next).map fun (l, cur) => (.literal l, cur)
      else if x = 'p' ∨ x = 'P' then readProperty verbose c.pos (x = 'P') c.next
      else if x = 'b' then readBoundary verbose c.pos c.next.next
      else if isEscapable x then .ok (.literal ⟨c.next.next.since c.pos, x, false⟩, c.next.next)
      else
        match letterEscape? (c.next.next.since c.pos) x with
        | some p => .ok (p, c.next.next)
        | none => .error ⟨.escapeUnrecognized, c.next.next.since c.pos, none⟩ := by
  rw [readEscape]
  generalize c.next.peek? = next? at hx
  subst hx
  rfl

theorem map_erase_letterEscape? (span span' : Span) (x : Char) :
    (letterEscape? span x).map Primitive.erase = (letterEscape? span' x).map Primitive.erase := by
  unfold letterEscape?
  split <;> rfl

theorem settles_readEscape {p : Primitive} (h : readEscape verbose c = .ok (p, after)) :
    Settles (·.erase = p.erase) after fun more r =>
      ∃ c', Prolongs more c c' ∧ r = readEscape verbose c' := by
  rcases hx : c.next.peek? with _ | x
  · simp only [readEscape, hx] at h
    cases h
  have hletter := Cursor.rest_ne_nil_of_peek? hx
  have hne := Cursor.rest_ne_nil_of_next hletter
  rw [readEscape_of_peek? hx] at h
  split_ifs at h with hdigit hhex hproperty hboundary hescapable
  · obtain ⟨⟨l, after'⟩, hl, heq⟩ := map_eq_ok_iff.1 h
    obtain ⟨rfl, rfl⟩ := Prod.mk.inj heq
    refine (settles_readHex hl).imp ?_
    rintro more _ ⟨c', hc, rfl⟩
    have hc₁ := hc.next hne
    refine ⟨_, ⟨c'.next, c'.pos, hc₁, rfl⟩, fun l' c₁ hr hl' => ⟨.literal l', ?_, ?_⟩⟩
    · rw [readEscape_of_peek? (hc₁.peek? hx), if_neg hdigit, if_pos hhex, hr]
      rfl
    · rw [Primitive.erase, Primitive.erase, hl']
  · refine (settles_readProperty h).imp ?_
    rintro more _ ⟨c', hc, rfl⟩
    have hc₁ := hc.next hne
    refine ⟨_, ⟨c'.next, c'.pos, hc₁, rfl⟩, fun p' c₁ hr hp' => ⟨p', ?_, hp'⟩⟩
    rw [readEscape_of_peek? (hc₁.peek? hx), if_neg hdigit, if_neg hhex, if_pos hproperty, hr]
  · refine (settles_readBoundary h).imp ?_
    rintro more _ ⟨c', hc, rfl⟩
    have hc₁ := hc.next hne
    refine ⟨_, ⟨c'.next.next, c'.pos, hc₁.next hletter, rfl⟩, fun p' c₁ hr hp' => ⟨p', ?_, hp'⟩⟩
    rw [readEscape_of_peek? (hc₁.peek? hx), if_neg hdigit, if_neg hhex, if_neg hproperty,
      if_pos hboundary, hr]
  · obtain ⟨rfl, rfl⟩ := Prod.mk.inj (Except.ok.inj h)
    refine .of_prolongs ?_
    rintro more _ ⟨c', hc, rfl⟩
    have hc₁ := hc.next hne
    rw [readEscape_of_peek? (hc₁.peek? hx), if_neg hdigit, if_neg hhex, if_neg hproperty,
      if_neg hboundary, if_pos hescapable]
    exact ⟨_, _, rfl, rfl, hc₁.next hletter⟩
  · refine .of_prolongs ?_
    rintro more _ ⟨c', hc, rfl⟩
    have hc₁ := hc.next hne
    have hsame := map_erase_letterEscape? (c'.next.next.since c'.pos) (c.next.next.since c.pos) x
    rw [readEscape_of_peek? (hc₁.peek? hx), if_neg hdigit, if_neg hhex, if_neg hproperty,
      if_neg hboundary, if_neg hescapable]
    split at h
    · rename_i q hq
      obtain ⟨rfl, rfl⟩ := Prod.mk.inj (Except.ok.inj h)
      rw [hq, Option.map_some, Option.map_eq_some_iff] at hsame
      obtain ⟨p', hp', herase⟩ := hsame
      rw [hp']
      exact ⟨_, _, rfl, herase, hc₁.next hletter⟩
    · cases h

end

end SchemaSieve.Regex
