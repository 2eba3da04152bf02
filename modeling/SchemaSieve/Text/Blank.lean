/-!
# Blank text

A name that holds nothing but white space names nothing. White space is the Unicode property
`White_Space`.
-/

namespace SchemaSieve.Text

/-- The characters with the Unicode property `White_Space`. -/
def isWhiteSpace (c : Char) : Bool :=
  let n := c.toNat
  (0x9 ≤ n && n ≤ 0xD) || n == 0x20 || n == 0x85 || n == 0xA0 || n == 0x1680 ||
    (0x2000 ≤ n && n ≤ 0x200A) || n == 0x2028 || n == 0x2029 || n == 0x202F || n == 0x205F ||
    n == 0x3000

/-- Text without a character other than white space; the empty text is blank. -/
def isBlank (s : String) : Bool :=
  s.toList.all isWhiteSpace

/-- A name that may be missing, with a blank one taken for missing. -/
def nonBlank (name : Option String) : Option String :=
  name.filter fun n => !isBlank n

@[simp] theorem nonBlank_none : nonBlank none = none := rfl

theorem nonBlank_eq_some_iff {name : Option String} {n : String} :
    nonBlank name = some n ↔ name = some n ∧ isBlank n = false := by
  cases name <;> simp [nonBlank, Option.filter_eq_some_iff]

theorem nonBlank_some {name : String} (h : isBlank name = false) : nonBlank (some name) = some name :=
  nonBlank_eq_some_iff.2 ⟨rfl, h⟩

@[simp] theorem nonBlank_nonBlank (name : Option String) :
    nonBlank (nonBlank name) = nonBlank name := by
  rcases h : nonBlank name with _ | n
  · rfl
  · exact nonBlank_some (nonBlank_eq_some_iff.1 h).2

theorem isWhiteSpace_of_isWhitespace {c : Char} (h : c.isWhitespace = true) :
    isWhiteSpace c = true := by
  simp only [Char.isWhitespace, Bool.or_eq_true, decide_eq_true_eq] at h
  rcases h with ((rfl | rfl) | rfl) | rfl <;> decide

end SchemaSieve.Text
