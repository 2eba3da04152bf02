import Mathlib.Tactic
import SchemaSieve.Filter.Pattern
import SchemaSieve.Proofs.TrailingParts

/-!
# Sources between anchors

A source is put between anchors as a text. Reading that text starts as if a group around the source
was open, and ends behind the parenthesis that closes this group (`run_closeGroup_anchored`).
-/

namespace SchemaSieve.Regex

/-! ## Compiling -/

section

variable {pattern : String} {fits : String → Regex → Bool} {s : Syntax} {r : Regex}

/-- A parse that has read nothing. -/
def Parse.ofChars (cs : List Char) : Parse :=
  { cur := Cursor.ofList cs, start := (Cursor.ofList cs).pos }

theorem parse_eq_ok_iff : parse pattern = .ok s ↔
    Parse.run (pattern.toList.length + 1) (.ofChars pattern.toList) = .ok s ∧
      s.checkNesting 0 = .ok () := by
  constructor
  · intro h
    obtain ⟨s', hrun, h⟩ := bind_eq_ok_iff.1 h
    obtain ⟨_, hnest, h⟩ := bind_eq_ok_iff.1 h
    obtain rfl := pure_eq_ok_iff.1 h
    exact ⟨hrun, hnest⟩
  · rintro ⟨hrun, hnest⟩
    exact bind_eq_ok_iff.2 ⟨s, hrun, bind_eq_ok_iff.2 ⟨(), hnest, rfl⟩⟩

theorem compile_eq_ok_iff : compile pattern fits = .ok r ↔
    ∃ s f, parse pattern = .ok s ∧ s.toRegex {} = .ok (r, f) ∧ fits pattern r = true := by
  constructor
  · intro h
    unfold compile at h
    split at h
    · cases h
    · rename_i heq
      obtain ⟨s, hparse, hregex⟩ := bind_eq_ok_iff.1 heq
      split_ifs at h with hfits
      obtain rfl := Except.ok.inj h
      exact ⟨s, _, hparse, hregex, hfits⟩
  · rintro ⟨s, f, hparse, hregex, hfits⟩
    have heq : (parse pattern >>= fun s => s.toRegex {}) = .ok (r, f) :=
      bind_eq_ok_iff.2 ⟨s, hparse, hregex⟩
    unfold compile
    rw [heq]
    exact if_pos hfits

end

/-! ## Between anchors -/

/-- A pattern between anchors. -/
def anchoredSyntax (body : Syntax) : Syntax :=
  .concat .nowhere [.assertion .nowhere .startLine, .group .nowhere [] body,
    .assertion .nowhere .endLine]

theorem toOption_toRegex_anchoredSyntax (body : Syntax) :
    ((anchoredSyntax body).toRegex {}).toOption =
      (body.toRegex {}).toOption.map fun (r, _) =>
        (.seq (.look .start) (.seq r (.look .stop)), {}) := by
  simp only [anchoredSyntax, Syntax.toRegex, Syntax.sequence, toOption_bind, toOption_ok,
    toOption_pure, Option.bind_some, Option.map_eq_bind, Option.bind_assoc]
  rfl

namespace Parse

/-- The frame around a source between the anchors. -/
def anchorFrame : Frame :=
  .group ⟨⟨1, 1, 2⟩, ⟨2, 1, 3⟩⟩ [] [.assertion ⟨⟨0, 1, 1⟩, ⟨1, 1, 2⟩⟩ .startLine] ⟨0, 1, 1⟩ false

/-- A parse that has read what stands before a source between the anchors. -/
def anchoredStart (cs : List Char) : Parse :=
  { cur := ⟨⟨4, 1, 5⟩, cs⟩, start := ⟨4, 1, 5⟩, frames := [anchorFrame] }

theorem run_anchoredStart (cs : List Char) (fuel : Nat) :
    run (fuel + 2) (ofChars ('^' :: '(' :: '?' :: ':' :: cs)) = run fuel (anchoredStart cs) := rfl

variable {s : Parse} {n : Nat}

theorem run_endAnchor (hverbose : s.verbose = false) (hframes : s.frames = [])
    (hrest : s.cur.rest = ['$']) (hn : 1 < n) :
    ∃ span span', run n s = .ok (branch span (.assertion span' .endLine :: s.parts)) := by
  obtain ⟨m, rfl⟩ := Nat.exists_eq_add_of_le' hn
  obtain ⟨⟨pos, rest⟩, verbose, names, frames, start, parts⟩ := s
  obtain rfl : verbose = false := hverbose
  obtain rfl : frames = [] := hframes
  obtain rfl : rest = ['$'] := hrest
  exact ⟨_, _, rfl⟩

theorem run_closeGroup_anchored {body : Syntax} (hrest : s.cur.rest = [')', '$'])
    (hbody : s.settle.1.erase = body.erase)
    (hframes : s.settle.2.map Frame.erase = [anchorFrame].map Frame.erase) (hn : 1 < n) :
    ∃ pattern, s.closeGroup >>= run n = .ok pattern ∧
      pattern.erase = anchoredSyntax body.erase := by
  obtain ⟨f, frames, heq, hf, hnil⟩ := List.map_eq_cons_iff.1 hframes
  obtain rfl := List.map_eq_nil_iff.1 hnil
  obtain ⟨span, outer, start, rfl, houter⟩ := Frame.erase_eq_group hf
  rw [closeGroup_of_settle (Prod.ext rfl heq), ok_bind]
  obtain ⟨span', span'', hrun⟩ := run_endAnchor (s := { s with
    cur := s.cur.next, verbose := false, frames := [], start
    parts := .group ⟨span.start, s.cur.next.pos⟩ [] s.settle.1 :: outer }) rfl rfl
    (by rw [Cursor.rest_next, hrest, List.tail_cons]) hn
  refine ⟨_, hrun, ?_⟩
  rw [erase_branch]
  simp only [List.map_cons, Syntax.erase, hbody, houter]
  rfl

end Parse

theorem toList_anchored (source : String) :
    ("^(?:" ++ source ++ ")$").toList =
      '^' :: '(' :: '?' :: ':' :: (source.toList ++ [')', '$']) := by
  simp [String.toList_append]

theorem run_anchored (source : String) :
    Parse.run (("^(?:" ++ source ++ ")$").toList.length + 1)
        (.ofChars ("^(?:" ++ source ++ ")$").toList) =
      Parse.run (source.toList.length + 5) (.anchoredStart (source.toList ++ [')', '$'])) := by
  rw [toList_anchored, ← Parse.run_anchoredStart]
  simp

end SchemaSieve.Regex

namespace SchemaSieve.NamePattern

variable {source : String} {fits : String → Regex → Bool} {p : NamePattern}

theorem wholeNameRegex_of_ofSource (h : ofSource source fits = .ok p) :
    wholeNameRegex source fits = .ok p.regex :=
  (ofSource_eq_ok_iff.1 h).2

theorem exists_ofSource {r : Regex} (h : wholeNameRegex source fits = .ok r) :
    ∃ p, ofSource source fits = .ok p ∧ p.regex = r :=
  ⟨⟨source, r, wholeNameRegex_of_fits h⟩, ofSource_eq_ok_iff.2 ⟨rfl, h⟩, rfl⟩

theorem wholeNameRegex_eq_ok_iff {q : Regex} : wholeNameRegex source fits = .ok q ↔
    (∃ r, Regex.compile source fits = .ok r) ∧
      Regex.compile ("^(?:" ++ source ++ ")$") fits = .ok q := by
  rw [wholeNameRegex, Regex.bind_eq_ok_iff]
  simp only [exists_and_right]

end SchemaSieve.NamePattern
