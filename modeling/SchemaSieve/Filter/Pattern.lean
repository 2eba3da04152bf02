import SchemaSieve.Object
import SchemaSieve.Regex.Compile

/-!
# Name patterns and name filters

A name pattern matches whole names: its source is compiled between anchors, after it was compiled
alone, so that no source can reach past the anchors. A source has one meaning, whatever may fit
into a matching machine, so patterns are equal when their sources are. A filter holds patterns that
include names and patterns that exclude them, each once.
-/

namespace SchemaSieve

/-! ## Lists without repetition -/

section

variable {α : Type} [DecidableEq α]

/-- A list with a value added at its end, unless it holds the value. -/
def addNew (xs : List α) (x : α) : List α := if x ∈ xs then xs else xs ++ [x]

/-- A list with the values of another that it does not hold added at its end, in their order. -/
def mergeNew (xs ys : List α) : List α := ys.foldl addNew xs

end

/-! ## Patterns -/

section

variable (source : String) (fits : String → Regex → Bool := Regex.fitsEstimate)

/-- The regular expression by which a pattern matches whole names. -/
def wholeNameRegex : Except Regex.CompileError Regex := do
  let _ ← Regex.compile source fits
  Regex.compile ("^(?:" ++ source ++ ")$") fits

end

theorem wholeNameRegex_of_fits {source : String} {fits : String → Regex → Bool} {r : Regex}
    (h : wholeNameRegex source fits = .ok r) : wholeNameRegex source (fun _ _ => true) = .ok r := by
  unfold wholeNameRegex at h ⊢
  rcases hbare : Regex.compile source fits with e | bare
  · rw [hbare] at h
    cases h
  · rw [hbare] at h
    rw [Regex.compile_of_fits hbare]
    exact Regex.compile_of_fits h

/-- A pattern for whole names. -/
structure NamePattern where
  source : String
  regex : Regex
  compiled : wholeNameRegex source (fun _ _ => true) = .ok regex

namespace NamePattern

/-- The pattern with a source, if what it is compiled to fits. -/
def ofSource (source : String) (fits : String → Regex → Bool := Regex.fitsEstimate) :
    Except Regex.CompileError NamePattern :=
  match h : wholeNameRegex source fits with
  | .ok regex => .ok ⟨source, regex, wholeNameRegex_of_fits h⟩
  | .error e => .error e

theorem eq_of_source_eq {p q : NamePattern} (h : p.source = q.source) : p = q := by
  obtain ⟨s, r, hr⟩ := p
  obtain ⟨t, u, hu⟩ := q
  obtain rfl : s = t := h
  obtain rfl : r = u := by simpa [hr] using hu
  rfl

instance : DecidableEq NamePattern := fun p q =>
  if h : p.source = q.source then isTrue (eq_of_source_eq h)
  else isFalse fun hpq => h (hpq ▸ rfl)

/-- Whether a pattern matches a name, from its start to its end. -/
def accepts (p : NamePattern) (name : String) : Bool := p.regex.isMatch name

theorem ofSource_eq_ok_iff {source : String} {fits : String → Regex → Bool} {p : NamePattern} :
    ofSource source fits = .ok p ↔
      p.source = source ∧ wholeNameRegex source fits = .ok p.regex := by
  constructor
  · intro h
    unfold ofSource at h
    split at h
    · rename_i regex hregex
      obtain rfl := Except.ok.inj h
      exact ⟨rfl, hregex⟩
    · cases h
  · rintro ⟨rfl, h⟩
    unfold ofSource
    split
    · exact congrArg Except.ok (eq_of_source_eq rfl)
    · rename_i hregex
      cases hregex.symm.trans h

end NamePattern

/-! ## Filters -/

/-- Patterns that include names and patterns that exclude them. -/
structure NameFilter where
  includes : List NamePattern := []
  excludes : List NamePattern := []
  deriving DecidableEq

namespace NameFilter

/-- The filter without patterns, which lets every name pass. -/
def empty : NameFilter := {}

def isEmpty (f : NameFilter) : Bool := f.includes.isEmpty && f.excludes.isEmpty

/-- Adds a pattern on the side of a polarity. -/
def add (f : NameFilter) : Polarity → NamePattern → NameFilter
  | .includes, p => { f with includes := addNew f.includes p }
  | .excludes, p => { f with excludes := addNew f.excludes p }

/-- The patterns of two filters, those of the first one in front. -/
def merge (f g : NameFilter) : NameFilter :=
  ⟨mergeNew f.includes g.includes, mergeNew f.excludes g.excludes⟩

/-- A name passes if some include matches it, or there is none, and no exclude does. -/
def accepts (f : NameFilter) (name : String) : Bool :=
  (f.includes.isEmpty || f.includes.any (·.accepts name)) && !f.excludes.any (·.accepts name)

end NameFilter

end SchemaSieve
