import Mathlib.Tactic
import SchemaSieve.Proofs.Anchors
import SchemaSieve.Proofs.Counts

/-!
# Patterns match whole names

A source that compiles alone and between anchors means the same between them: its pattern matches
the names that the source matches from start to end (`NamePattern.accepts_whole`). A parenthesis
that closes more than the source opens is found when the source is compiled alone, and a comment
that takes in the closing parenthesis when it is compiled between anchors.
-/

namespace SchemaSieve

namespace Regex

theorem exists_error_iff {ε α : Type} {x : Except ε α} : (∃ e, x = .error e) ↔ ∀ v, x ≠ .ok v := by
  cases x <;> simp

namespace Parse

variable {pattern : Syntax} {cs : List Char}

theorem alike_anchoredStart (cs cs' : List Char) :
    Alike [anchorFrame] (ofChars cs) (anchoredStart cs') :=
  ⟨rfl, rfl, rfl, trivial, rfl⟩

theorem alike_ofChars (cs cs' : List Char) : Alike [] (ofChars cs) (ofChars cs') :=
  ⟨rfl, rfl, rfl, trivial, rfl⟩

theorem Closes.exists_run_anchored (h : Closes pattern (ofChars cs)) :
    ∃ pattern', run (cs.length + 5) (anchoredStart (cs ++ [')', '$'])) = .ok pattern' ∧
      pattern'.erase = anchoredSyntax pattern.erase := by
  obtain ⟨s, n, hrun, hrest, hn, hbody, hframes⟩ :=
    @h [anchorFrame] ['$'] (anchoredStart (cs ++ [')', '$'])) (cs.length + 5)
      trivial (alike_anchoredStart cs _) rfl (by simp [anchoredStart])
  rw [hrun]
  exact run_closeGroup_anchored hrest hbody hframes hn

theorem closeGroup_of_settle_nil {s : Parse} (h : s.settle.2 = []) :
    ∃ e, s.closeGroup = .error e := by
  unfold closeGroup
  split
  · rename_i heq
    rw [heq] at h
    cases h
  · exact ⟨_, rfl⟩

/-- In a source that stands in no group, one more parenthesis is too many. -/
theorem Closes.exists_run_error (h : Closes pattern (ofChars cs)) (more : List Char) :
    ∃ e, run ((cs ++ ')' :: more).length + 1) (ofChars (cs ++ ')' :: more)) = .error e := by
  obtain ⟨s, n, hrun, -, -, -, hframes⟩ :=
    @h [] more (ofChars (cs ++ ')' :: more)) ((cs ++ ')' :: more).length + 1)
      trivial (alike_ofChars cs _) rfl (Nat.lt_succ_self _)
  obtain ⟨e, he⟩ := closeGroup_of_settle_nil (List.map_eq_nil_iff.1 hframes)
  rw [hrun, he]
  exact ⟨e, rfl⟩

theorem Swallows.exists_run_error (h : Swallows (ofChars cs)) :
    ∃ e, run (cs.length + 5) (anchoredStart (cs ++ [')', '$'])) = .error e :=
  @h [anchorFrame] ['$'] (anchoredStart (cs ++ [')', '$'])) (cs.length + 5)
    trivial (by simp) (by decide) (alike_anchoredStart cs _) rfl (by simp [anchoredStart])

end Parse

section

variable {source : String} {fits : String → Regex → Bool}

theorem exists_compile_error {e : Fault}
    (h : Parse.run (source.toList.length + 1) (.ofChars source.toList) = .error e) :
    ∃ e, compile source fits = .error e := by
  rw [exists_error_iff]
  intro r hr
  obtain ⟨s, f, hparse, -⟩ := compile_eq_ok_iff.1 hr
  rw [(parse_eq_ok_iff.1 hparse).1] at h
  cases h

end

end Regex

namespace NamePattern

variable {source : String} {fits : String → Regex → Bool} {p : NamePattern}

theorem exists_ofSource_error {e : Regex.CompileError} (h : wholeNameRegex source fits = .error e) :
    ∃ e, ofSource source fits = .error e := by
  rw [Regex.exists_error_iff]
  intro p hp
  rw [wholeNameRegex_of_ofSource hp] at h
  cases h

/-- What becomes of a source that compiles alone. -/
theorem closes_or_swallows_of_compile {r : Regex} (h : Regex.compile source fits = .ok r) :
    ∃ pattern f, pattern.toRegex {} = .ok (r, f) ∧
      ((Regex.Parse.ofChars source.toList).Closes pattern ∨
        (Regex.Parse.ofChars source.toList).Swallows) := by
  obtain ⟨pattern, f, hparse, hregex, -⟩ := Regex.compile_eq_ok_iff.1 h
  exact ⟨pattern, f, hregex,
    Regex.Parse.closes_or_swallows _ (Nat.lt_succ_self _) (Regex.parse_eq_ok_iff.1 hparse).1⟩

theorem exists_error_of_swallows (h : (Regex.Parse.ofChars source.toList).Swallows) :
    ∃ e, ofSource source fits = .error e := by
  obtain ⟨e, he⟩ := h.exists_run_error
  obtain ⟨e', he'⟩ : ∃ e, Regex.compile ("^(?:" ++ source ++ ")$") fits = .error e :=
    Regex.exists_compile_error ((Regex.run_anchored source).trans he)
  rw [Regex.exists_error_iff]
  intro p hp
  have hcompile := (wholeNameRegex_eq_ok_iff.1 (wholeNameRegex_of_ofSource hp)).2
  rw [he'] at hcompile
  cases hcompile

/-- Between anchors, a source means what it means alone. -/
theorem regex_of_closes {pattern : Regex.Syntax} {f : Regex.Flags} {r q : Regex}
    (hregex : pattern.toRegex {} = .ok (r, f))
    (h : (Regex.Parse.ofChars source.toList).Closes pattern)
    (hq : Regex.compile ("^(?:" ++ source ++ ")$") fits = .ok q) :
    q = .seq (.look .start) (.seq r (.look .stop)) := by
  obtain ⟨pattern', hrun, herase⟩ := h.exists_run_anchored
  obtain ⟨s, f', hparse, hq, -⟩ := Regex.compile_eq_ok_iff.1 hq
  have hs := (Regex.parse_eq_ok_iff.1 hparse).1
  rw [Regex.run_anchored, hrun] at hs
  obtain rfl := Except.ok.inj hs
  have hmeaning := Regex.Syntax.toOption_toRegex_erase pattern' {}
  rw [herase, Regex.toOption_toRegex_anchoredSyntax, Regex.Syntax.toOption_toRegex_erase, hregex,
    hq] at hmeaning
  exact (Prod.mk.inj (Option.some.inj hmeaning)).1.symm

/-- A match between anchors is one of the whole text. -/
theorem isMatch_between_anchors {r : Regex} (hr : r.Ranged) {name : String} :
    (Regex.seq (.look .start) (.seq r (.look .stop))).isMatch name = true ↔
      r.Matches name.toList 0 name.toList.length := by
  have hranged : (Regex.seq (.look .start) (.seq r (.look .stop))).Ranged :=
    ⟨trivial, hr, trivial⟩
  rw [Regex.isMatch_iff hranged]
  constructor
  · rintro ⟨i, j, hi, h⟩
    cases h with
    | seq hstart h =>
      cases h with
      | seq hmatch hstop =>
        cases hstart with
        | look hstart =>
          cases hstop with
          | look hstop =>
            obtain rfl := (Regex.holds_start_iff hi).1 hstart
            have hle := hmatch.le_length hi
            rw [Regex.Look.holds, Option.isNone_iff_eq_none, List.getElem?_eq_none_iff] at hstop
            rwa [le_antisymm hle hstop] at hmatch
  · intro h
    refine ⟨0, _, Nat.zero_le _, .seq (.look rfl) (.seq h (.look ?_))⟩
    simp [Regex.Look.holds]

/-- Two branches with anchors of their own, in verbose mode, with a comment behind them. -/
def branchedPattern : NamePattern where
  source := "(?x) a+ | ^b$ # c\n"
  regex := .seq (.look .start) (.seq (.alt (.seq .empty (.repeated 1 none (.char (.single 97))))
    (.seq (.look .start) (.seq (.char (.single 98)) (.look .stop)))) (.look .stop))
  compiled := by decide +kernel

end NamePattern

end SchemaSieve
