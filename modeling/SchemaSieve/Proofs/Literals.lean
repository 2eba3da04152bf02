import Mathlib.Tactic
import SchemaSieve.Proofs.Anchors
import SchemaSieve.Proofs.Matching
import SchemaSieve.Reconcile.Scaffold

/-!
# Literal patterns

Outside of verbose mode, the escaped form of a text is read as its characters one by one, whatever
stands behind it (`Parse.run_escaped`). So a literal source compiles to the expression of one text,
if this passes the check of its size, and its pattern matches the name it was made from alone.
-/

namespace SchemaSieve

namespace Regex

/-! ## Reading an escaped text -/

/-- The form in which a character stands for itself. -/
def escapeChar (c : Char) : List Char := if isMeta c then ['\\', c] else [c]

theorem toList_escape (text : String) : (escape text).toList = text.toList.flatMap escapeChar := by
  rw [escape, String.toList_ofList]
  rfl

theorem length_le_flatMap_escapeChar (cs : List Char) :
    cs.length ≤ (cs.flatMap escapeChar).length := by
  induction cs with
  | nil => exact le_rfl
  | cons c cs ih =>
    have hpos : 1 ≤ (escapeChar c).length := by
      rw [escapeChar]
      split_ifs <;> simp
    rw [List.flatMap_cons, List.length_append, List.length_cons]
    omega

/-- A character as a part of a pattern. -/
def plainLiteral (c : Char) : Syntax := .literal ⟨.nowhere, c, false⟩

theorem readEscape_of_isMeta {c : Cursor} {x : Char} {rest : List Char} {verbose : Bool}
    (hx : isMeta x = true) (hrest : c.rest = '\\' :: x :: rest) :
    readEscape verbose c =
      .ok (.literal ⟨c.next.next.since c.pos, x, false⟩, c.next.next) := by
  have hpeek : c.next.peek? = some x := by
    rw [Cursor.peek?, Cursor.rest_next, hrest]
    rfl
  have hplain : ∀ x ∈ ['\\', '.', '+', '*', '?', '(', ')', '|', '[', ']', '\x7b', '\x7d', '^', '$',
      '#', '&', '-', '~'], x.isDigit = false ∧ ¬ (x = 'x' ∨ x = 'u' ∨ x = 'U') ∧
        ¬ (x = 'p' ∨ x = 'P') ∧ x ≠ 'b' := by
    intro x hx
    fin_cases hx <;> decide
  obtain ⟨hdigit, hhex, hproperty, hboundary⟩ := hplain x (List.contains_iff_mem.1 hx)
  rw [readEscape_of_peek? hpeek, hdigit, if_neg Bool.false_ne_true, if_neg hhex, if_neg hproperty,
    if_neg hboundary, isEscapable, hx, Bool.true_or, if_pos rfl]

namespace Parse

theorem step_of_not_isMeta {s : Parse} {x : Char} (hx : isMeta x = false) :
    s.step x = .ok { s with
      cur := s.cur.next, parts := .literal ⟨s.cur.charSpan, x, false⟩ :: s.parts } := by
  unfold step
  split
  case h_8 =>
    unfold readPart
    split
    case h_6 => rfl
    all_goals cases hx
  all_goals cases hx

theorem step_of_isMeta {s : Parse} {x : Char} {rest : List Char} (hx : isMeta x = true)
    (hrest : s.cur.rest = '\\' :: x :: rest) :
    s.step '\\' = .ok { s with
      cur := s.cur.next.next
      parts := .literal ⟨s.cur.next.next.since s.cur.pos, x, false⟩ :: s.parts } :=
  readPart_escape (readEscape_of_isMeta hx hrest)

/-- Outside of verbose mode, nothing is skipped before a part. -/
theorem run_succ_of_plain {s : Parse} {x : Char} (hverbose : s.verbose = false)
    (hx : s.cur.peek? = some x) (fuel : Nat) : run (fuel + 1) s = s.step x >>= run fuel := by
  have hskip : s.cur.skipSpace s.verbose = s.cur := by
    rw [hverbose]
    rfl
  rw [run_of_peek?_some (x := x) (by rw [hskip, hx]), hskip]

theorem run_escapeChar {s : Parse} {c : Char} {rest : List Char} (hverbose : s.verbose = false)
    (hrest : s.cur.rest = escapeChar c ++ rest) (fuel : Nat) :
    ∃ s₁, run (fuel + 1) s = run fuel s₁ ∧ s₁.cur.rest = rest ∧ s₁.verbose = false ∧
      s₁.frames = s.frames ∧
      s₁.parts.map Syntax.erase = plainLiteral c :: s.parts.map Syntax.erase := by
  rcases hc : isMeta c with _ | _ <;> rw [escapeChar, hc] at hrest
  · have hx := Cursor.peek?_eq_some_iff.2 ⟨rest, hrest⟩
    have hrun := run_succ_of_plain hverbose hx fuel
    rw [step_of_not_isMeta hc, ok_bind] at hrun
    refine ⟨_, hrun, ?_, hverbose, rfl, rfl⟩
    rw [Cursor.rest_next, hrest]
    rfl
  · have hx := Cursor.peek?_eq_some_iff.2 ⟨c :: rest, hrest⟩
    have hrun := run_succ_of_plain hverbose hx fuel
    rw [step_of_isMeta hc hrest, ok_bind] at hrun
    refine ⟨_, hrun, ?_, hverbose, rfl, rfl⟩
    rw [Cursor.rest_next, Cursor.rest_next, hrest]
    rfl

/-- Each escaped character is one step, whatever stands behind. -/
theorem run_escaped {rest : List Char} (fuel : Nat) :
    ∀ (cs : List Char) {s : Parse}, s.verbose = false →
      s.cur.rest = cs.flatMap escapeChar ++ rest →
      ∃ s₁, run (fuel + cs.length) s = run fuel s₁ ∧ s₁.cur.rest = rest ∧ s₁.verbose = false ∧
        s₁.frames = s.frames ∧
        s₁.parts.map Syntax.erase = (cs.map plainLiteral).reverse ++ s.parts.map Syntax.erase
  | [], s, hverbose, hrest => ⟨s, rfl, hrest, hverbose, rfl, rfl⟩
  | c :: cs, s, hverbose, hrest => by
    rw [List.flatMap_cons, List.append_assoc] at hrest
    obtain ⟨s₁, hrun, hrest₁, hverbose₁, hframes₁, hparts₁⟩ :=
      run_escapeChar hverbose hrest (fuel + cs.length)
    obtain ⟨s₂, hrun₂, hrest₂, hverbose₂, hframes₂, hparts₂⟩ :=
      run_escaped fuel cs hverbose₁ hrest₁
    refine ⟨s₂, hrun.trans hrun₂, hrest₂, hverbose₂, hframes₂.trans hframes₁, ?_⟩
    rw [hparts₂, hparts₁, List.map_cons, List.reverse_cons, List.append_assoc]
    rfl

end Parse

/-! ## Compiling an escaped text -/

/-- The pattern of given characters in a row. -/
def literalSyntax (cs : List Char) : Syntax :=
  Parse.branch .nowhere (cs.map plainLiteral).reverse

theorem toRegex_plainLiteral (c : Char) :
    (plainLiteral c).toRegex {} = .ok (.char (.single c.toNat), {}) := rfl

theorem sequence_plainLiteral : ∀ cs : List Char,
    Syntax.sequence {} (cs.map plainLiteral) = .ok (literal cs, {})
  | [] => rfl
  | [c] => toRegex_plainLiteral c
  | c :: d :: cs => by
    have hrest := sequence_plainLiteral (d :: cs)
    rw [List.map_cons] at hrest
    rw [List.map_cons, List.map_cons, Syntax.sequence, toRegex_plainLiteral, ok_bind]
    · dsimp only
      rw [hrest]
      rfl
    · simp

theorem toRegex_branch (span : Span) (parts : List Syntax) (f : Flags) :
    (Parse.branch span parts).toRegex f = Syntax.sequence f parts.reverse := by
  rcases parts with _ | ⟨part, _ | ⟨next, parts⟩⟩ <;> rfl

theorem toRegex_literalSyntax (cs : List Char) :
    (literalSyntax cs).toRegex {} = .ok (literal cs, {}) := by
  rw [literalSyntax, toRegex_branch, List.reverse_reverse, sequence_plainLiteral]

theorem checkNestingAll_plainLiteral (depth : Nat) : ∀ cs : List Char,
    Syntax.checkNestingAll depth (cs.map plainLiteral) = .ok ()
  | [] => rfl
  | _ :: cs => checkNestingAll_plainLiteral depth cs

theorem checkNesting_branch {depth : Nat} (hdepth : depth < nestLimit) (span : Span)
    {parts : List Syntax} (h : ∀ d, Syntax.checkNestingAll d parts.reverse = .ok ()) :
    (Parse.branch span parts).checkNesting depth = .ok () := by
  rcases parts with _ | ⟨part, _ | ⟨next, parts⟩⟩
  · rfl
  · obtain ⟨_, hpart, -⟩ := bind_eq_ok_iff.1 (h depth)
    exact hpart
  · have hconcat : Parse.branch span (part :: next :: parts) =
        .concat span (part :: next :: parts).reverse := rfl
    rw [hconcat, Syntax.checkNesting, if_neg (Nat.not_le.2 hdepth)]
    exact h (depth + 1)

theorem checkNesting_literalSyntax {depth : Nat} (hdepth : depth < nestLimit) (cs : List Char) :
    (literalSyntax cs).checkNesting depth = .ok () := by
  refine checkNesting_branch hdepth _ fun d => ?_
  rw [List.reverse_reverse, checkNestingAll_plainLiteral]

theorem checkNesting_anchoredSyntax {body : Syntax} (h : body.checkNesting 2 = .ok ()) :
    (anchoredSyntax body).checkNesting 0 = .ok () := by
  simp only [anchoredSyntax, Syntax.checkNesting, Syntax.checkNestingAll, h]
  rfl

/-- A pattern compiles to what its parts mean, if that fits. -/
theorem compile_eq_ok_iff_of_erase {pattern : String} {fits : String → Regex → Bool} {s : Syntax}
    {f : Flags} {r q : Regex}
    (hrun : Parse.run (pattern.toList.length + 1) (.ofChars pattern.toList) = .ok s)
    (hnest : s.erase.checkNesting 0 = .ok ()) (hregex : s.erase.toRegex {} = .ok (r, f)) :
    compile pattern fits = .ok q ↔ q = r ∧ fits pattern r = true := by
  rw [← toOption_eq_some_iff, Syntax.toOption_checkNesting_erase, toOption_eq_some_iff] at hnest
  rw [← toOption_eq_some_iff, Syntax.toOption_toRegex_erase, toOption_eq_some_iff] at hregex
  have hparse := parse_eq_ok_iff.2 ⟨hrun, hnest⟩
  rw [compile_eq_ok_iff]
  constructor
  · rintro ⟨s', f', hparse', hregex', hfits⟩
    obtain rfl := Except.ok.inj (hparse'.symm.trans hparse)
    obtain ⟨rfl, -⟩ := Prod.mk.inj (Except.ok.inj (hregex'.symm.trans hregex))
    exact ⟨rfl, hfits⟩
  · rintro ⟨rfl, hfits⟩
    exact ⟨s, f, hparse, hregex, hfits⟩

theorem Parse.finish_of_nil {s : Parse} (h : s.frames = []) : s.finish = .ok s.current := by
  rw [finish, settle_of_grouped (h ▸ trivial), h]

/-- What is left to do where an escaped text has been read. -/
theorem exists_run_escaped {s : Parse} {rest : List Char} {n : Nat} (text : String)
    (hverbose : s.verbose = false) (hparts : s.parts = [])
    (hrest : s.cur.rest = (escape text).toList ++ rest) (hn : (escape text).toList.length < n) :
    ∃ s₁ m, Parse.run n s = Parse.run (m + 1) s₁ ∧ n ≤ m + 1 + (escape text).toList.length ∧
      s₁.cur.rest = rest ∧ s₁.verbose = false ∧ s₁.frames = s.frames ∧
      s₁.current.erase = literalSyntax text.toList := by
  rw [toList_escape] at hrest hn ⊢
  have hlen := length_le_flatMap_escapeChar text.toList
  obtain ⟨m, rfl⟩ : ∃ m, n = m + 1 + text.toList.length :=
    ⟨n - 1 - text.toList.length, by omega⟩
  obtain ⟨s₁, hrun, hrest₁, hverbose₁, hframes, hparts₁⟩ :=
    Parse.run_escaped (m + 1) text.toList hverbose hrest
  refine ⟨s₁, m, hrun, by omega, hrest₁, hverbose₁, hframes, ?_⟩
  rw [Parse.current, Parse.erase_branch, hparts₁, hparts, List.map_nil, List.append_nil]
  rfl

theorem run_escape (text : String) :
    ∃ s, Parse.run ((escape text).toList.length + 1) (.ofChars (escape text).toList) = .ok s ∧
      s.erase = literalSyntax text.toList := by
  obtain ⟨s, m, hrun, -, hrest, -, hframes, hcurrent⟩ :=
    exists_run_escaped (s := .ofChars (escape text).toList) text rfl rfl
      (List.append_nil _).symm (Nat.lt_succ_self _)
  have hend := Cursor.peek?_eq_none_iff.2 (Cursor.rest_skipSpace_of_nil s.verbose hrest)
  rw [hrun, Parse.run_of_peek?_none hend]
  refine ⟨_, Parse.finish_of_nil hframes, ?_⟩
  rw [Parse.current, Parse.erase_branch] at hcurrent ⊢
  exact hcurrent

theorem run_anchored_escape (text : String) :
    ∃ s, Parse.run (("^(?:" ++ escape text ++ ")$").toList.length + 1)
        (.ofChars ("^(?:" ++ escape text ++ ")$").toList) = .ok s ∧
      s.erase = anchoredSyntax (literalSyntax text.toList) := by
  obtain ⟨s, m, hrun, hm, hrest, hverbose, hframes, hcurrent⟩ :=
    exists_run_escaped (s := .anchoredStart ((escape text).toList ++ [')', '$'])) text rfl rfl rfl
      (Nat.lt_add_of_pos_right (n := (escape text).toList.length) (show 0 < 5 by decide))
  have hsettle : s.settle = (s.current, [Parse.anchorFrame]) := by
    rw [Parse.settle_of_grouped (hframes ▸ trivial), hframes]
    rfl
  have hbody : s.settle.1.erase = s.current.erase := by rw [hsettle]
  obtain ⟨s', hs', herase⟩ :=
    Parse.run_closeGroup_anchored (n := m) hrest hbody (by rw [hsettle]) (by omega)
  refine ⟨s', ?_, by rw [herase, hcurrent]⟩
  rw [run_anchored, hrun, Parse.run_succ_of_plain hverbose (Cursor.peek?_eq_some_iff.2 ⟨_, hrest⟩)]
  exact hs'

end Regex

namespace NamePattern

variable {name : String} {fits : String → Regex → Bool}

/-- A literal source compiles to the expression of the name it was made from, if this fits with and
without anchors. -/
theorem wholeNameRegex_literalSource_iff {q : Regex} :
    wholeNameRegex (literalSource name) fits = .ok q ↔ q = .anchored name.toList ∧
      fits (Regex.escape name) (.literal name.toList) = true ∧
        fits ("^(?:" ++ Regex.escape name ++ ")$") (.anchored name.toList) = true := by
  obtain ⟨s, hrun, hs⟩ := Regex.run_escape name
  obtain ⟨s', hrun', hs'⟩ := Regex.run_anchored_escape name
  have hbare {r : Regex} : Regex.compile (Regex.escape name) fits = .ok r ↔
      r = .literal name.toList ∧ fits (Regex.escape name) (.literal name.toList) = true :=
    Regex.compile_eq_ok_iff_of_erase hrun
      (hs ▸ Regex.checkNesting_literalSyntax (by decide) _) (hs ▸ Regex.toRegex_literalSyntax _)
  have hregex : (Regex.anchoredSyntax (Regex.literalSyntax name.toList)).toRegex {} =
      .ok (.anchored name.toList, {}) := by
    rw [← Regex.toOption_eq_some_iff, Regex.toOption_toRegex_anchoredSyntax,
      Regex.toRegex_literalSyntax]
    rfl
  have hwhole : Regex.compile ("^(?:" ++ Regex.escape name ++ ")$") fits = .ok q ↔
      q = .anchored name.toList ∧
        fits ("^(?:" ++ Regex.escape name ++ ")$") (.anchored name.toList) = true :=
    Regex.compile_eq_ok_iff_of_erase hrun'
      (hs' ▸ Regex.checkNesting_anchoredSyntax (Regex.checkNesting_literalSyntax (by decide) _))
      (hs' ▸ hregex)
  rw [literalSource, wholeNameRegex_eq_ok_iff, hwhole]
  simp only [hbare, exists_eq_left]
  exact and_left_comm

/-- The escaped form of a name gives a pattern, whatever check of its size lets it pass with and
without anchors. The pattern accepts this name alone, and no other name gives it. -/
theorem accepts_literalSource (fits : String → Regex → Bool) (name : String)
    (hbare : fits (Regex.escape name) (.literal name.toList) = true)
    (hwhole : fits ("^(?:" ++ Regex.escape name ++ ")$") (.anchored name.toList) = true) :
    ∃ p, ofSource (literalSource name) fits = .ok p ∧ (∀ m, p.accepts m = true ↔ m = name) ∧
      ∀ m q, ofSource (literalSource m) fits = .ok q → (q = p ↔ m = name) := by
  have haccepts {n : String} {p : NamePattern} (hp : p.regex = .anchored n.toList) (m : String) :
      p.accepts m = true ↔ m = n := by
    rw [accepts, hp, Regex.isMatch_anchored, String.toList_inj]
  obtain ⟨p, hp, hregex⟩ :=
    exists_ofSource (wholeNameRegex_literalSource_iff.2 ⟨rfl, hbare, hwhole⟩)
  refine ⟨p, hp, haccepts hregex, fun m q hq => ?_⟩
  constructor
  · rintro rfl
    have hq := (wholeNameRegex_literalSource_iff.1 (wholeNameRegex_of_ofSource hq)).1
    exact (haccepts hregex m).1 ((haccepts hq m).2 rfl)
  · rintro rfl
    exact Except.ok.inj (hq.symm.trans hp)

/-- A name made of what has a meaning in patterns. -/
def oddName : String := "^C$.(#&-~ \\d|é\n"

theorem accepts_literalSource_oddName :
    Regex.fitsEstimate (Regex.escape oddName) (.literal oddName.toList) = true ∧
      Regex.fitsEstimate ("^(?:" ++ Regex.escape oddName ++ ")$")
        (.anchored oddName.toList) = true ∧
      ∃ p, ofSource (literalSource oddName) = .ok p ∧ p.accepts oddName = true ∧
        p.accepts "^C$.(#&-~ \\d|é" = false := by
  have hbare : Regex.fitsEstimate (Regex.escape oddName) (.literal oddName.toList) = true := by
    decide +kernel
  have hwhole : Regex.fitsEstimate ("^(?:" ++ Regex.escape oddName ++ ")$")
      (.anchored oddName.toList) = true := by
    decide +kernel
  obtain ⟨p, hp, haccepts, -⟩ := accepts_literalSource Regex.fitsEstimate oddName hbare hwhole
  refine ⟨hbare, hwhole, p, hp, (haccepts _).2 rfl, ?_⟩
  rw [Bool.eq_false_iff, Ne, haccepts]
  decide

end NamePattern

end SchemaSieve
