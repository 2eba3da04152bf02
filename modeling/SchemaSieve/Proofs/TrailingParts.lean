import Mathlib.Tactic
import SchemaSieve.Proofs.Progress
import SchemaSieve.Regex.Parser

/-!
# What stands behind the parts of a pattern

A pattern that is read alone without a fault is read in the same steps where a closing parenthesis
and more stand behind it, inside of other groups or not (`Alike`). Then that parenthesis closes what
the pattern stands in (`Closes`), unless a comment that the pattern leaves open takes it in
(`Swallows`).
-/

namespace SchemaSieve.Regex

def Frame.erase : Frame → Frame
  | group _ items outer _ verbose =>
    .group .nowhere items (outer.map Syntax.erase) ⟨0, 0, 0⟩ verbose
  | alternation _ branches => .alternation ⟨0, 0, 0⟩ (branches.map Syntax.erase)

theorem Frame.erase_eq_group {f : Frame} {span : Span} {items : List FlagItem}
    {outer : List Syntax} {start : Position} {verbose : Bool}
    (h : f.erase = .group span items outer start verbose) :
    ∃ span' outer' start', f = .group span' items outer' start' verbose ∧
      outer'.map Syntax.erase = outer := by
  cases f with
  | group span' items' outer' start' verbose' =>
    obtain ⟨-, rfl, houter, -, rfl⟩ := Frame.group.inj h
    exact ⟨span', outer', start', rfl, houter⟩
  | alternation => cases h

theorem Opening.erase_eq_flags {opening : Opening} {span : Span} {items : List FlagItem}
    (h : opening.erase = .flags span items) : ∃ span', opening = .flags span' items := by
  cases opening with
  | flags span' items' =>
    obtain ⟨-, rfl⟩ := Opening.flags.inj h
    exact ⟨span', rfl⟩
  | group => cases h

theorem Opening.erase_eq_group {opening : Opening} {span : Span} {items : List FlagItem}
    (h : opening.erase = .group span items) : ∃ span', opening = .group span' items := by
  cases opening with
  | flags => cases h
  | group span' items' =>
    obtain ⟨-, rfl⟩ := Opening.group.inj h
    exact ⟨span', rfl⟩

theorem Primitive.erase_toSyntax (p : Primitive) : p.toSyntax.erase = p.erase.toSyntax := by
  cases p <;> rfl

theorem eq_ok_of_map_assoc {α β γ : Type} {r : Except Fault (α × β × γ)} {a : α} {b : β} {c : γ}
    (h : r.map (fun (a, b, c) => ((a, b), c)) = .ok ((a, b), c)) : r = .ok (a, b, c) := by
  obtain ⟨⟨a', b', c'⟩, hr, heq⟩ := map_eq_ok_iff.1 h
  obtain ⟨⟨rfl, rfl⟩, rfl⟩ := by simpa only [Prod.mk.injEq] using heq
  exact hr

/-! ## Frames -/

/-- Whether the innermost of some frames is no alternation. -/
def Grouped : List Frame → Prop
  | .alternation _ _ :: _ => False
  | _ => True

/-- Whether no alternation stands directly in another one. -/
def Apart : List Frame → Prop
  | [] => True
  | .group _ _ _ _ _ :: frames => Apart frames
  | .alternation _ _ :: frames => Grouped frames ∧ Apart frames

theorem grouped_or (frames : List Frame) :
    Grouped frames ∨ ∃ start branches rest, frames = .alternation start branches :: rest := by
  rcases frames with _ | ⟨_ | ⟨start, branches⟩, rest⟩
  · exact .inl trivial
  · exact .inl trivial
  · exact .inr ⟨start, branches, rest, rfl⟩

theorem grouped_map_erase {frames : List Frame} :
    Grouped (frames.map Frame.erase) ↔ Grouped frames := by
  rcases frames with _ | ⟨_ | _, frames⟩ <;> exact Iff.rfl

theorem Grouped.append {frames base : List Frame} (h : Grouped frames) (hbase : Grouped base) :
    Grouped (frames ++ base) := by
  rcases frames with _ | ⟨_ | _, frames⟩
  · exact hbase
  · trivial
  · exact h

namespace Parse

variable {base : List Frame} {more : List Char} {s s' s₁ : Parse} {x : Char}

/-- Whether one parse has read the same as another one, inside of some frames. -/
structure Alike (base : List Frame) (s s' : Parse) : Prop where
  verbose : s'.verbose = s.verbose
  names : s'.names.map Prod.fst = s.names.map Prod.fst
  frames : s'.frames.map Frame.erase = (s.frames ++ base).map Frame.erase
  apart : Apart s.frames
  parts : s'.parts.map Syntax.erase = s.parts.map Syntax.erase

theorem erase_branch (span : Span) (parts : List Syntax) :
    (branch span parts).erase = branch .nowhere (parts.map Syntax.erase) := by
  rcases parts with _ | ⟨part, _ | ⟨next, parts⟩⟩
  all_goals simp [branch, Syntax.erase, Syntax.eraseAll_eq_map]

theorem settle_of_grouped (h : Grouped s.frames) : s.settle = (s.current, s.frames) := by
  unfold settle
  split
  · rename_i heq
    rw [heq] at h
    exact h.elim
  · rfl

theorem settle_of_alternation {start : Position} {branches : List Syntax} {frames : List Frame}
    (h : s.frames = .alternation start branches :: frames) :
    s.settle =
      (.alternation (s.cur.since start) (s.current :: branches).reverse, frames) := by
  rw [settle, h]

theorem apart_settle (h : Apart s.frames) : Grouped s.settle.2 ∧ Apart s.settle.2 := by
  rcases grouped_or s.frames with hs | ⟨start, branches, frames, hframes⟩
  · rw [settle_of_grouped hs]
    exact ⟨hs, h⟩
  · rw [settle_of_alternation hframes]
    rw [hframes] at h
    exact h

namespace Alike

theorem atCursors (h : Alike base s s') (cur cur' : Cursor) :
    Alike base { s with cur } { s' with cur := cur' } :=
  ⟨h.verbose, h.names, h.frames, h.apart, h.parts⟩

theorem push (h : Alike base s s') {part part' : Syntax} (hpart : part'.erase = part.erase)
    (cur cur' : Cursor) :
    Alike base { s with cur, parts := part :: s.parts }
      { s' with cur := cur', parts := part' :: s'.parts } :=
  ⟨h.verbose, h.names, h.frames, h.apart, by rw [List.map_cons, List.map_cons, hpart, h.parts]⟩

theorem current (h : Alike base s s') : s'.current.erase = s.current.erase := by
  rw [Parse.current, Parse.current, erase_branch, erase_branch, h.parts]

theorem grouped (h : Alike base s s') (hbase : Grouped base) (hs : Grouped s.frames) :
    Grouped s'.frames := by
  rw [← grouped_map_erase, h.frames, grouped_map_erase]
  exact hs.append hbase

theorem exists_alternation (h : Alike base s s') {start : Position} {branches : List Syntax}
    {frames : List Frame} (hs : s.frames = .alternation start branches :: frames) :
    ∃ start' branches' frames', s'.frames = .alternation start' branches' :: frames' ∧
      branches'.map Syntax.erase = branches.map Syntax.erase ∧
      frames'.map Frame.erase = (frames ++ base).map Frame.erase := by
  have hframes := h.frames
  rw [hs, List.cons_append, List.map_cons] at hframes
  obtain ⟨f, frames', heq, hf, hframes'⟩ := List.map_eq_cons_iff.1 hframes
  cases f with
  | group => cases hf
  | alternation start' branches' =>
    exact ⟨start', branches', frames', heq, (Frame.alternation.inj hf).2, hframes'⟩

theorem settle (h : Alike base s s') (hbase : Grouped base) :
    s'.settle.1.erase = s.settle.1.erase ∧
      s'.settle.2.map Frame.erase = (s.settle.2 ++ base).map Frame.erase := by
  rcases grouped_or s.frames with hs | ⟨start, branches, frames, hframes⟩
  · rw [settle_of_grouped hs, settle_of_grouped (h.grouped hbase hs)]
    exact ⟨h.current, h.frames⟩
  · obtain ⟨start', branches', frames', hframes', hbranches, hrest⟩ := h.exists_alternation hframes
    rw [settle_of_alternation hframes, settle_of_alternation hframes']
    refine ⟨?_, hrest⟩
    simp only [Syntax.erase, Syntax.eraseAll_eq_map, List.map_reverse, List.map_cons, h.current,
      hbranches]

end Alike

theorem alternate_of_grouped (h : Grouped s.frames) :
    s.alternate.frames = .alternation s.start [s.current] :: s.frames := by
  dsimp only [alternate]
  split
  · rename_i heq
    rw [heq] at h
    exact h.elim
  · rfl

theorem alternate_of_alternation {start : Position} {branches : List Syntax} {frames : List Frame}
    (h : s.frames = .alternation start branches :: frames) :
    s.alternate.frames = .alternation start (s.current :: branches) :: frames := by
  simp only [alternate, h]

theorem apart_alternate (h : Apart s.frames) : Apart s.alternate.frames := by
  rcases grouped_or s.frames with hs | ⟨start, branches, frames, hframes⟩
  · rw [alternate_of_grouped hs]
    exact ⟨hs, h⟩
  · rw [alternate_of_alternation hframes]
    rw [hframes] at h
    exact h

theorem Alike.alternate (h : Alike base s s') (hbase : Grouped base) :
    Alike base s.alternate s'.alternate := by
  refine ⟨h.verbose, h.names, ?_, apart_alternate h.apart, rfl⟩
  rcases grouped_or s.frames with hs | ⟨start, branches, frames, hframes⟩
  · rw [alternate_of_grouped hs, alternate_of_grouped (h.grouped hbase hs)]
    simp only [List.cons_append, List.map_cons, List.map_nil, Frame.erase, h.current, h.frames]
  · obtain ⟨start', branches', frames', hframes', hbranches, hrest⟩ := h.exists_alternation hframes
    rw [alternate_of_alternation hframes, alternate_of_alternation hframes']
    simp only [List.cons_append, List.map_cons, Frame.erase, h.current, hbranches, hrest]

/-! ## Steps -/

/-- Whether a step that was taken alone is also taken where more stands behind. -/
def Carries (f : Parse → Except Fault Parse) (s s₁ : Parse) : Prop :=
  ∃ lost : Bool, (lost = true → s₁.cur.rest = []) ∧
    ∀ {base : List Frame} {more : List Char} {s' : Parse}, Grouped base → Admits lost more →
      Alike base s s' → Prolongs more s.cur s'.cur →
      ∃ s₁', f s' = .ok s₁' ∧ Alike base s₁ s₁' ∧ Meets lost more s₁.cur s₁'.cur

/-- A step that does not end in a comment is also taken if it comes to the same place. -/
theorem Carries.of_prolongs {f : Parse → Except Fault Parse}
    (h : ∀ {base : List Frame} {more : List Char} {s' : Parse}, Grouped base → Alike base s s' →
      Prolongs more s.cur s'.cur →
      ∃ s₁', f s' = .ok s₁' ∧ Alike base s₁ s₁' ∧ Prolongs more s₁.cur s₁'.cur) :
    Carries f s s₁ :=
  ⟨false, fun hf => Bool.noConfusion hf, fun hbase _ halike hc => h hbase halike hc⟩

theorem carries_alternate (hne : s.cur.rest ≠ []) :
    Carries (fun s => .ok s.alternate) s s.alternate :=
  .of_prolongs fun hbase halike hc => ⟨_, rfl, halike.alternate hbase, hc.next hne⟩

section

variable {names : GroupNames} {cur : Cursor} {span : Span} {items : List FlagItem}

theorem openGroup_of_flags
    (h : readOpening s.verbose s.names s.cur = .ok (.flags span items, names, cur)) :
    s.openGroup = .ok { s with
      cur, names, verbose := (flagState? .verbose false items).getD s.verbose
      parts := .flags span items :: s.parts } := by
  rw [openGroup, h]
  rfl

theorem openGroup_of_group
    (h : readOpening s.verbose s.names s.cur = .ok (.group span items, names, cur)) :
    s.openGroup = .ok {
      cur, names, verbose := (flagState? .verbose false items).getD s.verbose
      start := cur.pos, parts := []
      frames := .group span items s.parts s.start s.verbose :: s.frames } := by
  rw [openGroup, h]
  rfl

end

theorem carries_openGroup (hne : s.cur.rest ≠ []) (h : s.openGroup = .ok s₁) :
    Carries openGroup s s₁ := by
  obtain ⟨⟨opening, names, cur⟩, hopening, h⟩ := bind_eq_ok_iff.1 h
  obtain ⟨lost, hlost, hread⟩ := settles_readOpening hne hopening
  have hcur : s₁.cur = cur := by cases opening <;> obtain rfl := pure_eq_ok_iff.1 h <;> rfl
  refine ⟨lost, fun hl => hcur ▸ hlost hl, fun hbase hmore halike hc => ?_⟩
  obtain ⟨⟨opening', names'⟩, cur', hr, ⟨hsame, hnames⟩, hc₁⟩ :=
    hread _ _ hmore ⟨_, _, hc, halike.names, rfl⟩
  have hread' := eq_ok_of_map_assoc hr
  rw [← halike.verbose] at hread'
  cases opening with
  | flags span items =>
    obtain rfl := pure_eq_ok_iff.1 h
    obtain ⟨span', rfl⟩ := Opening.erase_eq_flags hsame
    refine ⟨_, openGroup_of_flags hread', ⟨?_, hnames, halike.frames, halike.apart, ?_⟩, hc₁⟩
    · simp only [halike.verbose]
    · simp only [List.map_cons, Syntax.erase, halike.parts]
  | group span items =>
    obtain rfl := pure_eq_ok_iff.1 h
    obtain ⟨span', rfl⟩ := Opening.erase_eq_group hsame
    refine ⟨_, openGroup_of_group hread', ⟨?_, hnames, ?_, halike.apart, rfl⟩, hc₁⟩
    · simp only [halike.verbose]
    · simp only [List.cons_append, List.map_cons, Frame.erase, halike.frames, halike.parts,
        halike.verbose]

theorem closeGroup_of_settle {body : Syntax} {span : Span} {items : List FlagItem}
    {outer : List Syntax} {start : Position} {verbose : Bool} {frames : List Frame}
    (h : s.settle = (body, .group span items outer start verbose :: frames)) :
    s.closeGroup = .ok { s with
      cur := s.cur.next, verbose, frames, start
      parts := .group ⟨span.start, s.cur.next.pos⟩ items body :: outer } := by
  rw [closeGroup, h]

theorem carries_closeGroup (hne : s.cur.rest ≠ []) (h : s.closeGroup = .ok s₁) :
    Carries closeGroup s s₁ := by
  refine .of_prolongs fun {base more s'} hbase halike hc => ?_
  have hsettle := halike.settle hbase
  unfold closeGroup at h
  split at h
  · rename_i body span items outer start verbose frames heq
    obtain rfl := Except.ok.inj h
    rw [heq] at hsettle
    obtain ⟨hbody, hframes⟩ := hsettle
    rw [List.cons_append, List.map_cons] at hframes
    obtain ⟨f, frames', heq', hf, hframes'⟩ := List.map_eq_cons_iff.1 hframes
    obtain ⟨span', outer', start', rfl, houter⟩ := Frame.erase_eq_group hf
    refine ⟨_, closeGroup_of_settle (Prod.ext rfl heq'), ?_, hc.next hne⟩
    refine ⟨rfl, halike.names, hframes', ?_, ?_⟩
    · have hapart := (apart_settle halike.apart).2
      rw [heq] at hapart
      exact hapart
    · simp only [List.map_cons, Syntax.erase, hbody, houter]
  · cases h

/-- The part that a repetition repeats, and the parts before it. -/
def repeatable? : List Syntax → Option (Syntax × List Syntax)
  | [] | .empty _ :: _ | .flags _ _ :: _ => none
  | part :: parts => some (part, parts)

theorem toOption_repeated (s : Parse) : s.repeated.toOption = repeatable? s.parts := by
  unfold repeated repeatable?
  split <;> simp_all

theorem repeatable?_map_erase (parts : List Syntax) :
    repeatable? (parts.map Syntax.erase) =
      (repeatable? parts).map (Prod.map Syntax.erase (List.map Syntax.erase)) := by
  rcases parts with _ | ⟨part, parts⟩
  · rfl
  · cases part <;> rfl

theorem Alike.repeated (h : Alike base s s') {part : Syntax} {parts : List Syntax}
    (hs : s.repeated = .ok (part, parts)) :
    ∃ part' parts', s'.repeated = .ok (part', parts') ∧ part'.erase = part.erase ∧
      parts'.map Syntax.erase = parts.map Syntax.erase := by
  have hsame := repeatable?_map_erase s'.parts
  rw [h.parts, repeatable?_map_erase, ← toOption_repeated, ← toOption_repeated, hs] at hsame
  obtain ⟨⟨part', parts'⟩, hrepeated, heq⟩ := Option.map_eq_some_iff.1 hsame.symm
  obtain ⟨hpart, hparts⟩ := Prod.mk.inj heq
  exact ⟨part', parts', toOption_eq_some_iff.1 hrepeated, hpart, hparts⟩

section

variable {part part' : Syntax} {parts parts' : List Syntax} {min : Nat} {max : Option Nat}

theorem Alike.repetition (h : Alike base s s') (hpart : part'.erase = part.erase)
    (hparts : parts'.map Syntax.erase = parts.map Syntax.erase) (cur cur' : Cursor)
    (span span' : Span) :
    Alike base { s with cur, parts := .repetition span min max part :: parts }
      { s' with cur := cur', parts := .repetition span' min max part' :: parts' } :=
  ⟨h.verbose, h.names, h.frames, h.apart,
    by simp only [List.map_cons, Syntax.erase, hpart, hparts]⟩

theorem repeatSimply_of_repeated (h : s.repeated = .ok (part, parts)) :
    let cur := if s.cur.next.sees '?' then s.cur.next.next else s.cur.next
    s.repeatSimply min max = .ok { s with
      cur, parts := .repetition ⟨part.span.start, cur.pos⟩ min max part :: parts } := by
  rw [repeatSimply, h]
  rfl

theorem repeatCounted_of_repeated {cur : Cursor} (h : s.repeated = .ok (part, parts))
    (hrange : readRange s.verbose s.cur = .ok (min, max, cur)) :
    s.repeatCounted = .ok { s with
      cur, parts := .repetition ⟨part.span.start, cur.pos⟩ min max part :: parts } := by
  rw [repeatCounted, h, ok_bind, hrange]
  rfl

theorem carries_repeatSimply (hne : s.cur.rest ≠ []) (h : s.repeatSimply min max = .ok s₁) :
    Carries (repeatSimply · min max) s s₁ := by
  obtain ⟨⟨part, parts⟩, hrepeated, h⟩ := bind_eq_ok_iff.1 h
  obtain rfl := pure_eq_ok_iff.1 h
  refine .of_prolongs fun {base more s'} _ halike hc => ?_
  obtain ⟨part', parts', hrepeated', hpart, hparts⟩ := halike.repeated hrepeated
  have hnext : Meets false more s.cur.next s'.cur.next := hc.next hne
  exact ⟨_, repeatSimply_of_repeated hrepeated', halike.repetition hpart hparts _ _ _ _,
    hnext.pass (by decide)⟩

theorem carries_repeatCounted (h : s.repeatCounted = .ok s₁) : Carries repeatCounted s s₁ := by
  obtain ⟨⟨part, parts⟩, hrepeated, h⟩ := bind_eq_ok_iff.1 h
  obtain ⟨⟨min, max, cur⟩, hrange, h⟩ := bind_eq_ok_iff.1 h
  obtain rfl := pure_eq_ok_iff.1 h
  obtain ⟨lost, hlost, hread⟩ := settles_readRange hrange
  refine ⟨lost, hlost, fun {base more s'} _ hmore halike hc => ?_⟩
  obtain ⟨part', parts', hrepeated', hpart, hparts⟩ := halike.repeated hrepeated
  obtain ⟨_, cur', hr, rfl, hc₁⟩ := hread _ _ hmore ⟨_, hc, rfl⟩
  have hread' := eq_ok_of_map_assoc hr
  rw [← halike.verbose] at hread'
  exact ⟨_, repeatCounted_of_repeated hrepeated' hread', halike.repetition hpart hparts _ _ _ _,
    hc₁⟩

end

theorem readPart_class {part : Syntax} {cur : Cursor}
    (h : readClass s.verbose s.cur = .ok (part, cur)) :
    s.readPart '[' = .ok { s with cur, parts := part :: s.parts } := by
  rw [readPart, h]
  rfl

theorem readPart_escape {p : Primitive} {cur : Cursor}
    (h : readEscape s.verbose s.cur = .ok (p, cur)) :
    s.readPart '\\' = .ok { s with cur, parts := p.toSyntax :: s.parts } := by
  rw [readPart, h]
  rfl

/-- What a character stands for that takes no more than itself. -/
def plainPart (span : Span) : Char → Syntax
  | '.' => .dot span
  | '^' => .assertion span .startLine
  | '$' => .assertion span .endLine
  | x => .literal ⟨span, x, false⟩

theorem readPart_plain (hopen : x ≠ '[') (hslash : x ≠ '\\') :
    s.readPart x =
      .ok { s with cur := s.cur.next, parts := plainPart s.cur.charSpan x :: s.parts } := by
  unfold readPart
  split
  case h_6 =>
    rw [plainPart]
    · rfl
    all_goals assumption
  all_goals first | rfl | contradiction

theorem erase_plainPart (span : Span) : (plainPart span x).erase = plainPart .nowhere x := by
  unfold plainPart
  split <;> rfl

theorem carries_readPart (hne : s.cur.rest ≠ []) (h : s.readPart x = .ok s₁) :
    Carries (readPart · x) s s₁ := by
  by_cases hopen : x = '['
  · subst hopen
    obtain ⟨⟨part, cur⟩, hclass, h⟩ := bind_eq_ok_iff.1 h
    obtain rfl := pure_eq_ok_iff.1 h
    refine .of_prolongs fun {base more s'} _ halike hc => ?_
    obtain ⟨part', cur', hclass', hpart, hc₁⟩ := prolongs_readClass hc hclass
    rw [← halike.verbose] at hclass'
    exact ⟨_, readPart_class hclass', halike.push hpart _ _, hc₁⟩
  by_cases hslash : x = '\\'
  · subst hslash
    obtain ⟨⟨p, cur⟩, hescape, h⟩ := bind_eq_ok_iff.1 h
    obtain rfl := pure_eq_ok_iff.1 h
    obtain ⟨lost, hlost, hread⟩ := settles_readEscape hescape
    refine ⟨lost, hlost, fun {base more s'} _ hmore halike hc => ?_⟩
    obtain ⟨p', cur', hescape', hp, hc₁⟩ := hread _ _ hmore ⟨_, hc, rfl⟩
    rw [← halike.verbose] at hescape'
    refine ⟨_, readPart_escape hescape', halike.push ?_ _ _, hc₁⟩
    rw [Primitive.erase_toSyntax, Primitive.erase_toSyntax, hp]
  · rw [readPart_plain hopen hslash] at h
    obtain rfl := Except.ok.inj h
    refine .of_prolongs fun {base more s'} _ halike hc => ?_
    refine ⟨_, readPart_plain hopen hslash, halike.push ?_ _ _, hc.next hne⟩
    rw [erase_plainPart, erase_plainPart]

/-- Whatever character comes next, a step that is taken alone is taken where more stands behind. -/
theorem carries_step (hx : s.cur.peek? = some x) (h : s.step x = .ok s₁) :
    Carries (step · x) s s₁ := by
  have hne := Cursor.rest_ne_nil_of_peek? hx
  unfold step at h ⊢
  split at h
  · exact carries_openGroup hne h
  · exact carries_closeGroup hne h
  · obtain rfl := Except.ok.inj h
    exact carries_alternate hne
  · exact carries_repeatSimply hne h
  · exact carries_repeatSimply hne h
  · exact carries_repeatSimply hne h
  · exact carries_repeatCounted h
  · exact carries_readPart hne h

/-! ## Runs -/

theorem run_of_peek?_none {fuel : Nat} (h : (s.cur.skipSpace s.verbose).peek? = none) :
    run (fuel + 1) s = { s with cur := s.cur.skipSpace s.verbose }.finish := by
  rw [run]
  simp only [h]

theorem run_of_peek?_some {fuel : Nat} (h : (s.cur.skipSpace s.verbose).peek? = some x) :
    run (fuel + 1) s = { s with cur := s.cur.skipSpace s.verbose }.step x >>= run fuel := by
  rw [run]
  simp only [h]

theorem exists_finish_of_nil (h : s.cur.rest = []) :
    ∀ fuel, ∃ cur, run fuel s = { s with cur }.finish
  | 0 => ⟨s.cur, rfl⟩
  | _ + 1 => ⟨_, run_of_peek?_none <|
      Cursor.peek?_eq_none_iff.2 (Cursor.rest_skipSpace_of_nil _ h)⟩

/-- A pattern ends without a fault if no group is open. -/
theorem settle_of_finish {pattern : Syntax} (hapart : Apart s.frames)
    (h : s.finish = .ok pattern) : s.settle = (pattern, []) := by
  have hgrouped := (apart_settle hapart).1
  unfold finish at h
  split at h
  · rename_i heq
    rw [heq, Except.ok.inj h]
  · cases h
  · rename_i heq
    rw [heq] at hgrouped
    exact hgrouped.elim

/-- The parenthesis behind a pattern closes what the pattern stands in. -/
def Closes (pattern : Syntax) (s : Parse) : Prop :=
  ∀ {base : List Frame} {more : List Char} {s' : Parse} {fuel : Nat}, Grouped base →
    Alike base s s' → Prolongs more s.cur s'.cur → s'.cur.rest.length < fuel →
    ∃ (s₁ : Parse) (n : Nat), run fuel s' = s₁.closeGroup >>= run n ∧
      s₁.cur.rest = ')' :: more ∧ more.length < n ∧ s₁.settle.1.erase = pattern.erase ∧
      s₁.settle.2.map Frame.erase = base.map Frame.erase

/-- The parenthesis behind a pattern is lost, so that what the pattern stands in is not closed. -/
def Swallows (s : Parse) : Prop :=
  ∀ {base : List Frame} {more : List Char} {s' : Parse} {fuel : Nat}, Grouped base → base ≠ [] →
    '\n' ∉ more → Alike base s s' → Prolongs more s.cur s'.cur → s'.cur.rest.length < fuel →
    ∃ e, run fuel s' = .error e

/-- What a pattern stands in is open where the pattern ends. -/
theorem Alike.exists_error {pattern : Syntax} (h : Alike base s s') (hbase : Grouped base)
    (hne : base ≠ []) (hs : s.finish = .ok pattern) : ∃ e, s'.finish = .error e := by
  have hsettle := (h.settle hbase).2
  rw [settle_of_finish h.apart hs, List.nil_append] at hsettle
  have hgrouped : Grouped s'.settle.2 := by
    rw [← grouped_map_erase, hsettle, grouped_map_erase]
    exact hbase
  rcases hs' : s'.settle with ⟨body, _ | ⟨_ | _, frames⟩⟩
  · rw [hs'] at hsettle
    exact absurd (List.map_eq_nil_iff.1 hsettle.symm) hne
  · exact ⟨_, by rw [finish, hs']⟩
  · rw [hs'] at hgrouped
    exact hgrouped.elim

theorem closes_or_swallows_of_finish {pattern : Syntax}
    (hx : (s.cur.skipSpace s.verbose).peek? = none)
    (h : { s with cur := s.cur.skipSpace s.verbose }.finish = .ok pattern) :
    s.Closes pattern ∨ s.Swallows := by
  obtain ⟨lost, -, hspace⟩ := meets_skipSpace s.verbose s.cur
  cases lost with
  | false =>
    left
    intro base more s' fuel hbase halike hc hfuel
    obtain ⟨n, rfl⟩ := Nat.exists_eq_succ_of_ne_zero (Nat.ne_zero_of_lt hfuel)
    have hc₁ : Prolongs more _ _ := hspace (fun hf => Bool.noConfusion hf) hc
    have hrest : (s'.cur.skipSpace s'.verbose).rest = ')' :: more := by
      rw [halike.verbose, show Cursor.rest _ = _ from hc₁, Cursor.peek?_eq_none_iff.1 hx,
        List.nil_append]
    have hlt := (s'.cur.skipSpace_suffix s'.verbose).length_le
    rw [hrest, List.length_cons] at hlt
    have hsettle := (halike.atCursors (s.cur.skipSpace s.verbose)
      (s'.cur.skipSpace s'.verbose)).settle hbase
    have hopen := settle_of_finish (s := { s with cur := s.cur.skipSpace s.verbose }) halike.apart h
    rw [hopen] at hsettle
    exact ⟨_, n, run_of_peek?_some (Cursor.peek?_eq_some_iff.2 ⟨more, hrest⟩), hrest, by omega,
      hsettle⟩
  | true =>
    right
    intro base more s' fuel hbase hne hmore halike hc hfuel
    obtain ⟨n, rfl⟩ := Nat.exists_eq_succ_of_ne_zero (Nat.ne_zero_of_lt hfuel)
    have hend := (hspace (fun _ => hmore) hc).2
    rw [← halike.verbose] at hend
    rw [run_of_peek?_none (Cursor.peek?_eq_none_iff.2 hend)]
    exact (halike.atCursors _ _).exists_error hbase hne h

/-- A step on the way is also the first one of a run where more stands behind. -/
theorem Carries.exists_run {lost : Bool} {fuel : Nat}
    (hcarries : ∀ {base : List Frame} {more : List Char} {s' : Parse}, Grouped base →
      Admits lost more → Alike base { s with cur := s.cur.skipSpace s.verbose } s' →
      Prolongs more (s.cur.skipSpace s.verbose) s'.cur →
      ∃ s₁', s'.step x = .ok s₁' ∧ Alike base s₁ s₁' ∧ Meets lost more s₁.cur s₁'.cur)
    (hx : (s.cur.skipSpace s.verbose).peek? = some x) (hbase : Grouped base)
    (hmore : Admits lost more) (halike : Alike base s s') (hc : Prolongs more s.cur s'.cur)
    (hfuel : s'.cur.rest.length < fuel) :
    ∃ s₁' n, run fuel s' = run n s₁' ∧ Alike base s₁ s₁' ∧ Meets lost more s₁.cur s₁'.cur ∧
      s₁'.cur.rest.length < n := by
  obtain ⟨n, rfl⟩ := Nat.exists_eq_succ_of_ne_zero (Nat.ne_zero_of_lt hfuel)
  have hc₁ : Prolongs more (s.cur.skipSpace s.verbose) (s'.cur.skipSpace s'.verbose) := by
    rw [halike.verbose]
    exact hc.skipSpace (Cursor.rest_ne_nil_of_peek? hx)
  obtain ⟨s₁', hstep, halike₁, hmeets⟩ :=
    hcarries hbase hmore (halike.atCursors _ (s'.cur.skipSpace s'.verbose)) hc₁
  have hx' : (s'.cur.skipSpace s'.verbose).peek? = some x := hc₁.peek? hx
  refine ⟨s₁', n, ?_, halike₁, hmeets,
    (length_lt_of_step hx' hstep).trans_le (Nat.le_of_lt_succ hfuel)⟩
  rw [run_of_peek?_some hx', hstep, ok_bind]

/-- What stands behind a pattern that is read without a fault alone. The step that loses it to a
comment is the last one, so the induction on the steps is over there. -/
theorem closes_or_swallows {pattern : Syntax} :
    ∀ (fuel : Nat) {s : Parse}, s.cur.rest.length < fuel → run fuel s = .ok pattern →
      s.Closes pattern ∨ s.Swallows
  | 0, _, hfuel, _ => absurd hfuel (Nat.not_lt_zero _)
  | fuel + 1, s, hfuel, h => by
    rcases hx : (s.cur.skipSpace s.verbose).peek? with _ | x
    · rw [run_of_peek?_none hx] at h
      exact closes_or_swallows_of_finish hx h
    rw [run_of_peek?_some hx] at h
    obtain ⟨s₁, hstep, h⟩ := bind_eq_ok_iff.1 h
    obtain ⟨lost, hlost, hcarries⟩ := carries_step hx hstep
    have hlt := (length_lt_of_step hx hstep).trans_le (Nat.le_of_lt_succ hfuel)
    cases lost with
    | false =>
      rcases closes_or_swallows fuel hlt h with hcloses | hswallows
      · left
        intro base more s' fuel' hbase halike hc hfuel'
        obtain ⟨s₁', n, hrun, halike₁, hc₁, hn⟩ :=
          Carries.exists_run hcarries hx hbase (fun hf => Bool.noConfusion hf) halike hc hfuel'
        rw [hrun]
        exact hcloses hbase halike₁ hc₁ hn
      · right
        intro base more s' fuel' hbase hne hmore halike hc hfuel'
        obtain ⟨s₁', n, hrun, halike₁, hc₁, hn⟩ :=
          Carries.exists_run hcarries hx hbase (fun hf => Bool.noConfusion hf) halike hc hfuel'
        rw [hrun]
        exact hswallows hbase hne hmore halike₁ hc₁ hn
    | true =>
      -- Alone, the comment that takes in what stands behind is the end of the pattern.
      right
      intro base more s' fuel' hbase hne hmore halike hc hfuel'
      obtain ⟨s₁', n, hrun, halike₁, hend, hn⟩ :=
        Carries.exists_run hcarries hx hbase (fun _ => hmore) halike hc hfuel'
      obtain ⟨cur, hfinish⟩ := exists_finish_of_nil (hlost rfl) fuel
      obtain ⟨cur', hfinish'⟩ := exists_finish_of_nil hend.2 n
      rw [hfinish] at h
      rw [hrun, hfinish']
      exact (halike₁.atCursors cur cur').exists_error hbase hne h

end Parse

end SchemaSieve.Regex
