import Mathlib.Tactic
import SchemaSieve.Regex.Compile

/-!
# Patterns without their stretches

The stretches of a pattern serve its faults alone. Erasing them leaves what the pattern means as it
is (`Syntax.toOption_toRegex_erase`), and how deep it is nested
(`Syntax.toOption_checkNesting_erase`), so that patterns which differ in their stretches alone stand
for the same expression.
-/

namespace SchemaSieve.Regex

section

variable {ε α β : Type}

@[simp] theorem toOption_ok (a : α) : (Except.ok a : Except ε α).toOption = some a := rfl

@[simp] theorem toOption_error (e : ε) : (Except.error e : Except ε α).toOption = none := rfl

@[simp] theorem toOption_pure (a : α) : (pure a : Except ε α).toOption = some a := rfl

@[simp] theorem toOption_throw (e : ε) : (throw e : Except ε α).toOption = none := rfl

@[simp] theorem toOption_bind (x : Except ε α) (g : α → Except ε β) :
    (x >>= g).toOption = x.toOption.bind fun a => (g a).toOption := by
  cases x <;> rfl

@[simp] theorem toOption_map (x : Except ε α) (g : α → β) :
    (x.map g).toOption = x.toOption.map g := by
  cases x <;> rfl

theorem toOption_eq_some_iff {x : Except ε α} {a : α} : x.toOption = some a ↔ x = .ok a := by
  cases x <;> simp [Except.toOption]

end

/-! ## Erasing stretches -/

/-- The stretch before a pattern, which stands for all others. -/
def Span.nowhere : Span := ⟨⟨0, 0, 0⟩, ⟨0, 0, 0⟩⟩

def Literal.erase (l : Literal) : Literal := { l with span := .nowhere }

mutual

def ClassSet.erase : ClassSet → ClassSet
  | .empty _ => .empty .nowhere
  | .literal l => .literal l.erase
  | .range first last => .range first.erase last.erase
  | .ascii _ name negated => .ascii .nowhere name negated
  | .perl _ name negated => .perl .nowhere name negated
  | .property _ query negated => .property .nowhere query negated
  | .bracketed _ negated set => .bracketed .nowhere negated set.erase
  | .union _ items => .union .nowhere (ClassSet.eraseAll items)
  | .operation _ op left right => .operation .nowhere op left.erase right.erase

def ClassSet.eraseAll : List ClassSet → List ClassSet
  | [] => []
  | item :: items => item.erase :: ClassSet.eraseAll items

end

mutual

def Syntax.erase : Syntax → Syntax
  | .empty _ => .empty .nowhere
  | .flags _ items => .flags .nowhere items
  | .literal l => .literal l.erase
  | .dot _ => .dot .nowhere
  | .assertion _ kind => .assertion .nowhere kind
  | .perl _ name negated => .perl .nowhere name negated
  | .property _ query negated => .property .nowhere query negated
  | .bracketed _ negated set => .bracketed .nowhere negated set.erase
  | .repetition _ min max body => .repetition .nowhere min max body.erase
  | .group _ items body => .group .nowhere items body.erase
  | .alternation _ branches => .alternation .nowhere (Syntax.eraseAll branches)
  | .concat _ parts => .concat .nowhere (Syntax.eraseAll parts)

def Syntax.eraseAll : List Syntax → List Syntax
  | [] => []
  | part :: parts => part.erase :: Syntax.eraseAll parts

end

theorem ClassSet.eraseAll_eq_map : ∀ items : List ClassSet, eraseAll items = items.map erase
  | [] => rfl
  | item :: items => by rw [eraseAll, eraseAll_eq_map items, List.map_cons]

theorem Syntax.eraseAll_eq_map : ∀ parts : List Syntax, eraseAll parts = parts.map erase
  | [] => rfl
  | part :: parts => by rw [eraseAll, eraseAll_eq_map parts, List.map_cons]

/-! ## Meaning -/

section

variable (f : Flags)

theorem toOption_closeSet (span span' : Span) (negated : Bool) (s : Text.CharSet) :
    (closeSet f span negated s).toOption = (closeSet f span' negated s).toOption := by
  simp only [closeSet]
  split_ifs <;> rfl

theorem toOption_perlSet (span span' : Span) (name : PerlClass) (negated : Bool) :
    (perlSet f span name negated).toOption = (perlSet f span' name negated).toOption := by
  simp only [perlSet]
  split_ifs <;> rfl

theorem toOption_propertySet (span span' : Span) (query : Text.Unicode.PropertyQuery)
    (negated : Bool) :
    (propertySet f span query negated).toOption = (propertySet f span' query negated).toOption := by
  unfold propertySet
  split_ifs
  · rfl
  · split
    · rfl
    · rfl
    · exact toOption_closeSet f span span' negated _

theorem Literal.toOption_checkByte_erase (l : Literal) :
    (l.erase.checkByte f).toOption = (l.checkByte f).toOption := by
  obtain ⟨span, char, isByte⟩ := l
  rw [erase]
  simp only [checkByte]
  split_ifs <;> rfl

theorem Literal.toOption_member_erase (l : Literal) :
    (l.erase.member f).toOption = (l.member f).toOption := by
  have hbyte := l.toOption_checkByte_erase f
  obtain ⟨span, char, isByte⟩ := l
  rw [erase] at hbyte ⊢
  simp only [member, toOption_bind, hbyte]
  refine congrArg _ (funext fun _ => ?_)
  split_ifs <;> rfl

mutual

theorem ClassSet.toOption_toCharSet_erase :
    ∀ s : ClassSet, (s.erase.toCharSet f).toOption = (s.toCharSet f).toOption
  | .empty _ => rfl
  | .literal l => by simp only [erase, toCharSet, toOption_map, l.toOption_member_erase f]
  | .range first last => by
    simp only [erase, toCharSet, toOption_bind, first.toOption_member_erase f,
      last.toOption_member_erase f, toOption_pure]
  | .ascii span name negated => toOption_closeSet f _ span negated _
  | .perl span name negated => toOption_perlSet f _ span name negated
  | .property span query negated => toOption_propertySet f _ span query negated
  | .bracketed span negated set => by
    simp only [erase, toCharSet, toOption_bind, set.toOption_toCharSet_erase,
      toOption_closeSet f .nowhere span]
  | .union _ items => ClassSet.toOption_toCharSetAll_erase items
  | .operation _ op left right => by
    simp only [erase, toCharSet, toOption_bind, left.toOption_toCharSet_erase,
      right.toOption_toCharSet_erase, toOption_pure]

theorem ClassSet.toOption_toCharSetAll_erase :
    ∀ items : List ClassSet,
      (toCharSetAll f (eraseAll items)).toOption = (toCharSetAll f items).toOption
  | [] => rfl
  | item :: items => by
    simp only [eraseAll, toCharSetAll, toOption_bind, item.toOption_toCharSet_erase,
      ClassSet.toOption_toCharSetAll_erase items, toOption_pure]

end

end

mutual

theorem Syntax.toOption_toRegex_erase :
    ∀ (s : Syntax) (f : Flags), (s.erase.toRegex f).toOption = (s.toRegex f).toOption
  | .empty _, _ => rfl
  | .flags _ _, _ => rfl
  | .literal l, f => by
    simp only [erase, toRegex, toOption_bind, l.toOption_checkByte_erase f, toOption_pure]
    rfl
  | .dot _, f => by
    simp only [erase, toRegex]
    split <;> rfl
  | .assertion _ _, _ => rfl
  | .perl span name negated, f => by
    simp only [erase, toRegex, toOption_map, toOption_perlSet f .nowhere span]
  | .property span query negated, f => by
    simp only [erase, toRegex, toOption_map, toOption_propertySet f .nowhere span]
  | .bracketed span negated set, f => by
    simp only [erase, toRegex, toOption_bind, set.toOption_toCharSet_erase f,
      toOption_closeSet f .nowhere span]
  | .repetition _ min max body, f => by
    simp only [erase, toRegex, toOption_bind, body.toOption_toRegex_erase f, toOption_pure]
  | .group _ items body, f => by
    simp only [erase, toRegex, toOption_bind, body.toOption_toRegex_erase (f.set items),
      toOption_pure]
  | .alternation _ branches, f => Syntax.toOption_alternatives_erase branches f
  | .concat _ parts, f => Syntax.toOption_sequence_erase parts f

theorem Syntax.toOption_sequence_erase :
    ∀ (parts : List Syntax) (f : Flags),
      (sequence f (eraseAll parts)).toOption = (sequence f parts).toOption
  | [], _ => rfl
  | [part], f => part.toOption_toRegex_erase f
  | part :: next :: parts, f => by
    have hrest := Syntax.toOption_sequence_erase (next :: parts)
    simp only [eraseAll] at hrest
    simp only [eraseAll, sequence, toOption_bind, part.toOption_toRegex_erase, hrest, toOption_pure]

theorem Syntax.toOption_alternatives_erase :
    ∀ (branches : List Syntax) (f : Flags),
      (alternatives f (eraseAll branches)).toOption = (alternatives f branches).toOption
  | [], _ => rfl
  | [branch], f => branch.toOption_toRegex_erase f
  | branch :: next :: branches, f => by
    have hrest := Syntax.toOption_alternatives_erase (next :: branches)
    simp only [eraseAll] at hrest
    simp only [eraseAll, alternatives, toOption_bind, branch.toOption_toRegex_erase, hrest,
      toOption_pure]

end

/-! ## Nesting -/

/-- What is checked one level deeper, unless the limit is reached. -/
def nested (depth : Nat) (span : Span) (inner : Except Fault Unit) : Except Fault Unit := do
  if depth ≥ nestLimit then throw ⟨.nestingTooDeep, span, none⟩
  inner

theorem toOption_nested {x y : Except Fault Unit} (h : x.toOption = y.toOption) (depth : Nat)
    (span span' : Span) : (nested depth span x).toOption = (nested depth span' y).toOption := by
  unfold nested
  split_ifs
  · rfl
  · exact h

mutual

theorem ClassSet.toOption_checkNesting_erase :
    ∀ (s : ClassSet) (depth : Nat),
      (s.erase.checkNesting depth).toOption = (s.checkNesting depth).toOption
  | .empty _, _ | .literal _, _ | .range _ _, _ | .ascii _ _ _, _ | .perl _ _ _, _
  | .property _ _ _, _ => rfl
  | .bracketed span _ set, depth =>
    toOption_nested (set.toOption_checkNesting_erase (depth + 1)) depth _ span
  | .union span items, depth =>
    toOption_nested (ClassSet.toOption_checkNestingAll_erase items (depth + 1)) depth _ span
  | .operation span _ left right, depth => by
    refine toOption_nested ?_ depth _ span
    rw [toOption_bind, toOption_bind, left.toOption_checkNesting_erase,
      right.toOption_checkNesting_erase]

theorem ClassSet.toOption_checkNestingAll_erase :
    ∀ (items : List ClassSet) (depth : Nat),
      (checkNestingAll depth (eraseAll items)).toOption = (checkNestingAll depth items).toOption
  | [], _ => rfl
  | item :: items, depth => by
    simp only [eraseAll, checkNestingAll, toOption_bind, item.toOption_checkNesting_erase,
      ClassSet.toOption_checkNestingAll_erase items]

end

mutual

theorem Syntax.toOption_checkNesting_erase :
    ∀ (s : Syntax) (depth : Nat),
      (s.erase.checkNesting depth).toOption = (s.checkNesting depth).toOption
  | .empty _, _ | .flags _ _, _ | .literal _, _ | .dot _, _ | .assertion _ _, _ | .perl _ _ _, _
  | .property _ _ _, _ => rfl
  | .bracketed span _ set, depth =>
    toOption_nested (set.toOption_checkNesting_erase (depth + 1)) depth _ span
  | .repetition span _ _ body, depth =>
    toOption_nested (body.toOption_checkNesting_erase (depth + 1)) depth _ span
  | .group span _ body, depth =>
    toOption_nested (body.toOption_checkNesting_erase (depth + 1)) depth _ span
  | .alternation span branches, depth =>
    toOption_nested (Syntax.toOption_checkNestingAll_erase branches (depth + 1)) depth _ span
  | .concat span parts, depth =>
    toOption_nested (Syntax.toOption_checkNestingAll_erase parts (depth + 1)) depth _ span

theorem Syntax.toOption_checkNestingAll_erase :
    ∀ (parts : List Syntax) (depth : Nat),
      (checkNestingAll depth (eraseAll parts)).toOption = (checkNestingAll depth parts).toOption
  | [], _ => rfl
  | part :: parts, depth => by
    simp only [eraseAll, checkNestingAll, toOption_bind, part.toOption_checkNesting_erase,
      Syntax.toOption_checkNestingAll_erase parts]

end

end SchemaSieve.Regex
