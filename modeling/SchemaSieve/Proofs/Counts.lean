import Mathlib.Tactic
import SchemaSieve.Proofs.Matching
import SchemaSieve.Proofs.TrailingClasses
import SchemaSieve.Proofs.TrailingGroups

/-!
# Counts in compiled patterns

A repetition whose greatest count is below its least one is refused when it is read. So in the
expression of a pattern that compiles, every repetition has a range of counts (`ranged_of_compile`).
-/

namespace SchemaSieve.Regex

mutual

/-- Whether no repetition has a greatest count below its least one. -/
def Syntax.Ranged : Syntax → Prop
  | .repetition _ min max body => (∀ m ∈ max, min ≤ m) ∧ body.Ranged
  | .group _ _ body => body.Ranged
  | .alternation _ branches => Syntax.AllRanged branches
  | .concat _ parts => Syntax.AllRanged parts
  | _ => True

def Syntax.AllRanged : List Syntax → Prop
  | [] => True
  | part :: parts => part.Ranged ∧ Syntax.AllRanged parts

end

theorem Syntax.allRanged_iff :
    ∀ {parts : List Syntax}, AllRanged parts ↔ ∀ part ∈ parts, part.Ranged
  | [] => by simp [AllRanged]
  | part :: parts => by simp [AllRanged, @allRanged_iff parts]

/-! ## From patterns to expressions -/

mutual

theorem Syntax.ranged_of_toRegex :
    ∀ {s : Syntax} {f f' : Flags} {r : Regex}, s.Ranged → s.toRegex f = .ok (r, f') → r.Ranged
  | .empty _, _, _, _, _, h | .flags _ _, _, _, _, _, h | .assertion _ _, _, _, _, _, h => by
    obtain ⟨rfl, -⟩ := Prod.mk.inj (Except.ok.inj h)
    trivial
  | .literal l, _, _, _, _, h => by
    obtain ⟨_, -, h⟩ := bind_eq_ok_iff.1 h
    obtain ⟨rfl, -⟩ := Prod.mk.inj (pure_eq_ok_iff.1 h)
    trivial
  | .dot _, f, _, _, _, h => by
    simp only [toRegex] at h
    split_ifs at h
    · obtain ⟨rfl, -⟩ := Prod.mk.inj (Except.ok.inj h)
      trivial
    · cases h
  | .perl _ _ _, _, _, _, _, h | .property _ _ _, _, _, _, _, h => by
    obtain ⟨s, -, heq⟩ := map_eq_ok_iff.1 h
    obtain ⟨rfl, -⟩ := Prod.mk.inj heq
    trivial
  | .bracketed _ _ _, _, _, _, _, h => by
    obtain ⟨s, -, h⟩ := bind_eq_ok_iff.1 h
    obtain ⟨s', -, h⟩ := bind_eq_ok_iff.1 h
    obtain ⟨rfl, -⟩ := Prod.mk.inj (pure_eq_ok_iff.1 h)
    trivial
  | .repetition _ min max body, _, _, _, hs, h => by
    obtain ⟨⟨r, f⟩, hbody, h⟩ := bind_eq_ok_iff.1 h
    obtain ⟨rfl, -⟩ := Prod.mk.inj (pure_eq_ok_iff.1 h)
    exact ⟨hs.1, Syntax.ranged_of_toRegex hs.2 hbody⟩
  | .group _ _ body, _, _, _, hs, h => by
    obtain ⟨⟨r, f⟩, hbody, h⟩ := bind_eq_ok_iff.1 h
    obtain ⟨rfl, -⟩ := Prod.mk.inj (pure_eq_ok_iff.1 h)
    exact @Syntax.ranged_of_toRegex body _ _ _ hs hbody
  | .alternation _ branches, _, _, _, hs, h =>
    @Syntax.ranged_of_alternatives branches _ _ _ hs h
  | .concat _ parts, _, _, _, hs, h => @Syntax.ranged_of_sequence parts _ _ _ hs h

theorem Syntax.ranged_of_sequence :
    ∀ {parts : List Syntax} {f f' : Flags} {r : Regex}, AllRanged parts →
      sequence f parts = .ok (r, f') → r.Ranged
  | [], _, _, _, _, h => by
    obtain ⟨rfl, -⟩ := Prod.mk.inj (Except.ok.inj h)
    trivial
  | [part], _, _, _, hs, h => Syntax.ranged_of_toRegex hs.1 h
  | part :: next :: parts, _, _, _, hs, h => by
    obtain ⟨⟨r, f⟩, hpart, h⟩ := bind_eq_ok_iff.1 h
    obtain ⟨⟨rest, f'⟩, hrest, h⟩ := bind_eq_ok_iff.1 h
    obtain ⟨rfl, -⟩ := Prod.mk.inj (pure_eq_ok_iff.1 h)
    exact ⟨Syntax.ranged_of_toRegex hs.1 hpart, Syntax.ranged_of_sequence hs.2 hrest⟩

theorem Syntax.ranged_of_alternatives :
    ∀ {branches : List Syntax} {f f' : Flags} {r : Regex}, AllRanged branches →
      alternatives f branches = .ok (r, f') → r.Ranged
  | [], _, _, _, _, h => by
    obtain ⟨rfl, -⟩ := Prod.mk.inj (Except.ok.inj h)
    trivial
  | [branch], _, _, _, hs, h => Syntax.ranged_of_toRegex hs.1 h
  | branch :: next :: branches, _, _, _, hs, h => by
    obtain ⟨⟨r, f⟩, hbranch, h⟩ := bind_eq_ok_iff.1 h
    obtain ⟨⟨rest, f'⟩, hrest, h⟩ := bind_eq_ok_iff.1 h
    obtain ⟨rfl, -⟩ := Prod.mk.inj (pure_eq_ok_iff.1 h)
    exact ⟨Syntax.ranged_of_toRegex hs.1 hbranch, Syntax.ranged_of_alternatives hs.2 hrest⟩

end

/-! ## Parts -/

section

variable {c after : Cursor} {verbose : Bool}

theorem Primitive.ranged_toSyntax (p : Primitive) : p.toSyntax.Ranged := by
  cases p <;> trivial

theorem ranged_of_readClassWithin {part : Syntax} :
    ∀ (fuel : Nat) {frames : List ClassFrame} {run : ItemRun} {c : Cursor},
      readClassWithin verbose fuel frames run c = .ok (part, after) → part.Ranged
  | 0, _, _, _, h => by cases h
  | fuel + 1, frames, run, c, h => by
    rcases hx : (c.skipSpace verbose).peek? with _ | x
    · rw [readClassWithin, hx] at h
      cases h
    by_cases hopen : x = '['
    · subst hopen
      simp only [readClassWithin, hx] at h
      split at h
      · exact ranged_of_readClassWithin fuel h
      · obtain ⟨_, -, h⟩ := bind_eq_ok_iff.1 h
        exact ranged_of_readClassWithin fuel h
    by_cases hclose : x = ']'
    · subst hclose
      simp only [readClassWithin, hx] at h
      split at h
      · obtain ⟨rfl, -⟩ := Prod.mk.inj (pure_eq_ok_iff.1 h)
        trivial
      · exact ranged_of_readClassWithin fuel h
      · cases h
    · simp only [readClassWithin, hx] at h
      split at h
      · exact ranged_of_readClassWithin fuel h
      · obtain ⟨_, -, h⟩ := bind_eq_ok_iff.1 h
        exact ranged_of_readClassWithin fuel h

theorem le_of_readRange {min : Nat} {max : Option Nat}
    (h : readRange verbose c = .ok (min, max, after)) : ∀ m ∈ max, min ≤ m := by
  rw [← toOption_eq_some_iff, toOption_readRange] at h
  obtain ⟨⟨min, max, stop⟩, -, h⟩ := Option.bind_eq_some_iff.1 h
  rw [closeBounds?] at h
  obtain ⟨⟨-, hle⟩, h⟩ := Option.ite_none_right_eq_some.1 h
  obtain ⟨rfl, rfl, -⟩ := by simpa only [Option.some.injEq, Prod.mk.injEq] using h
  rintro m rfl
  simpa using hle

end

/-! ## Parses -/

def Frame.Ranged : Frame → Prop
  | .group _ _ outer _ _ => ∀ part ∈ outer, part.Ranged
  | .alternation _ branches => ∀ branch ∈ branches, branch.Ranged

namespace Parse

/-- Whether all that was read so far is in order. -/
structure Ranged (s : Parse) : Prop where
  parts : ∀ part ∈ s.parts, part.Ranged
  frames : ∀ frame ∈ s.frames, frame.Ranged

variable {s s₁ : Parse} {x : Char}

theorem ranged_branch (span : Span) {parts : List Syntax} (h : ∀ part ∈ parts, part.Ranged) :
    (branch span parts).Ranged := by
  unfold branch
  split
  · trivial
  · exact h _ List.mem_cons_self
  · refine Syntax.allRanged_iff.2 fun part hpart => h part ?_
    exact List.mem_reverse.1 hpart

namespace Ranged

theorem current (h : s.Ranged) : s.current.Ranged := ranged_branch _ h.parts

theorem settle (h : s.Ranged) :
    s.settle.1.Ranged ∧ ∀ frame ∈ s.settle.2, frame.Ranged := by
  unfold Parse.settle
  split
  · rename_i hframes
    have hframes' := h.frames
    rw [hframes, List.forall_mem_cons] at hframes'
    refine ⟨Syntax.allRanged_iff.2 fun branch hbranch => ?_, hframes'.2⟩
    rcases List.mem_cons.1 (List.mem_reverse.1 hbranch) with rfl | hmem
    · exact h.current
    · exact hframes'.1 branch hmem
  · exact ⟨h.current, h.frames⟩

theorem alternate (h : s.Ranged) : s.alternate.Ranged := by
  refine ⟨by simp [Parse.alternate], ?_⟩
  have hframes := h.frames
  dsimp only [Parse.alternate]
  split
  · rename_i heq
    rw [heq, List.forall_mem_cons] at hframes
    exact List.forall_mem_cons.2 ⟨List.forall_mem_cons.2 ⟨h.current, hframes.1⟩, hframes.2⟩
  · exact List.forall_mem_cons.2 ⟨List.forall_mem_singleton.2 h.current, hframes⟩

theorem of_openGroup (h : s.Ranged) (hs : s.openGroup = .ok s₁) : s₁.Ranged := by
  obtain ⟨⟨opening, names, cur⟩, -, hs⟩ := bind_eq_ok_iff.1 hs
  cases opening <;> obtain rfl := pure_eq_ok_iff.1 hs
  · exact ⟨List.forall_mem_cons.2 ⟨trivial, h.parts⟩, h.frames⟩
  · exact ⟨by simp, List.forall_mem_cons.2 ⟨h.parts, h.frames⟩⟩

theorem of_closeGroup (h : s.Ranged) (hs : s.closeGroup = .ok s₁) : s₁.Ranged := by
  obtain ⟨hbody, hframes⟩ := h.settle
  unfold closeGroup at hs
  split at hs
  · rename_i hsettle
    rw [hsettle] at hbody hframes
    obtain rfl := Except.ok.inj hs
    rw [List.forall_mem_cons] at hframes
    exact ⟨List.forall_mem_cons.2 ⟨hbody, hframes.1⟩, hframes.2⟩
  · cases hs

theorem of_repeated (h : s.Ranged) {part : Syntax} {parts : List Syntax}
    (hs : s.repeated = .ok (part, parts)) : part.Ranged ∧ ∀ part ∈ parts, part.Ranged := by
  have hparts := h.parts
  unfold repeated at hs
  split at hs
  · cases hs
  · cases hs
  · cases hs
  · rename_i heq
    obtain ⟨rfl, rfl⟩ := Prod.mk.inj (Except.ok.inj hs)
    rw [heq, List.forall_mem_cons] at hparts
    exact hparts

theorem of_repeatSimply (h : s.Ranged) {min : Nat} {max : Option Nat} (hle : ∀ m ∈ max, min ≤ m)
    (hs : s.repeatSimply min max = .ok s₁) : s₁.Ranged := by
  obtain ⟨⟨part, parts⟩, hrepeated, hs⟩ := bind_eq_ok_iff.1 hs
  obtain rfl := pure_eq_ok_iff.1 hs
  obtain ⟨hpart, hparts⟩ := h.of_repeated hrepeated
  exact ⟨List.forall_mem_cons.2 ⟨⟨hle, hpart⟩, hparts⟩, h.frames⟩

theorem of_repeatCounted (h : s.Ranged) (hs : s.repeatCounted = .ok s₁) : s₁.Ranged := by
  obtain ⟨⟨part, parts⟩, hrepeated, hs⟩ := bind_eq_ok_iff.1 hs
  obtain ⟨⟨min, max, cur⟩, hrange, hs⟩ := bind_eq_ok_iff.1 hs
  obtain rfl := pure_eq_ok_iff.1 hs
  obtain ⟨hpart, hparts⟩ := h.of_repeated hrepeated
  exact ⟨List.forall_mem_cons.2 ⟨⟨le_of_readRange hrange, hpart⟩, hparts⟩, h.frames⟩

theorem of_readPart (h : s.Ranged) (hs : s.readPart x = .ok s₁) : s₁.Ranged := by
  unfold readPart at hs
  split at hs
  · obtain ⟨⟨part, cur⟩, hclass, hs⟩ := bind_eq_ok_iff.1 hs
    obtain rfl := pure_eq_ok_iff.1 hs
    obtain ⟨_, -, hclass⟩ := bind_eq_ok_iff.1 hclass
    exact ⟨List.forall_mem_cons.2 ⟨ranged_of_readClassWithin _ hclass, h.parts⟩, h.frames⟩
  · obtain ⟨⟨p, cur⟩, -, hs⟩ := bind_eq_ok_iff.1 hs
    obtain rfl := pure_eq_ok_iff.1 hs
    exact ⟨List.forall_mem_cons.2 ⟨p.ranged_toSyntax, h.parts⟩, h.frames⟩
  all_goals
    obtain rfl := pure_eq_ok_iff.1 hs
    exact ⟨List.forall_mem_cons.2 ⟨trivial, h.parts⟩, h.frames⟩

theorem of_step (h : s.Ranged) (hs : s.step x = .ok s₁) : s₁.Ranged := by
  unfold step at hs
  split at hs
  · exact h.of_openGroup hs
  · exact h.of_closeGroup hs
  · obtain rfl := Except.ok.inj hs
    exact h.alternate
  · exact h.of_repeatSimply (by simp) hs
  · exact h.of_repeatSimply (by simp) hs
  · exact h.of_repeatSimply (by simp) hs
  · exact h.of_repeatCounted hs
  · exact h.of_readPart hs

theorem of_finish (h : s.Ranged) {pattern : Syntax} (hs : s.finish = .ok pattern) :
    pattern.Ranged := by
  have hsettle := h.settle.1
  unfold finish at hs
  split at hs
  · rename_i heq
    rw [heq] at hsettle
    exact Except.ok.inj hs ▸ hsettle
  · cases hs
  · rename_i heq
    rw [heq] at hsettle
    exact Except.ok.inj hs ▸ hsettle

theorem of_run {pattern : Syntax} :
    ∀ (fuel : Nat) {s : Parse}, s.Ranged → run fuel s = .ok pattern → pattern.Ranged
  | 0, _, h, hs => h.of_finish hs
  | fuel + 1, s, h, hs => by
    have hspace : { s with cur := s.cur.skipSpace s.verbose }.Ranged := ⟨h.parts, h.frames⟩
    rw [run] at hs
    dsimp only at hs
    split at hs
    · exact hspace.of_finish hs
    · obtain ⟨s₁, hstep, hs⟩ := bind_eq_ok_iff.1 hs
      exact of_run fuel (hspace.of_step hstep) hs

end Ranged

end Parse

/-- In the expression of a pattern, each repetition allows the copies that it asks for. -/
theorem ranged_of_compile {pattern : String} {fits : String → Regex → Bool} {r : Regex}
    (h : compile pattern fits = .ok r) : r.Ranged := by
  unfold compile at h
  split at h
  · cases h
  · rename_i heq
    obtain ⟨s, hparse, hregex⟩ := bind_eq_ok_iff.1 heq
    obtain ⟨s', hrun, hparse⟩ := bind_eq_ok_iff.1 hparse
    obtain ⟨_, -, hparse⟩ := bind_eq_ok_iff.1 hparse
    obtain rfl := pure_eq_ok_iff.1 hparse
    split_ifs at h
    obtain rfl := Except.ok.inj h
    refine Syntax.ranged_of_toRegex (Parse.Ranged.of_run _ ?_ hrun) hregex
    exact ⟨by simp, by simp⟩

end SchemaSieve.Regex
