import SchemaSieve.Regex.Meaning
import SchemaSieve.Regex.Parser

/-!
# Compiling patterns

From the text of a pattern to its regular expression. A pattern is refused for a fault in its text
or because its matching machine would take too much space. How much that is depends on how the
machine is built from the text, so the check is a parameter; what runs goes by an estimate.
-/

namespace SchemaSieve.Regex

/-- Why a pattern is refused. -/
inductive CompileError where
  | invalid (pattern : String) (fault : Fault)
  | tooLarge
  deriving DecidableEq

/-- How many bytes a matching machine may take. -/
def sizeLimit : Nat := 10485760

def CompileError.message : CompileError → String
  | invalid pattern fault => fault.message pattern
  | tooLarge => s!"Compiled regex exceeds size limit of {sizeLimit} bytes."

/-- Whether the matching machine of a pattern stays within the limit, by the estimate of its size.
The estimate goes by the expression alone. -/
def fitsEstimate (_ : String) (r : Regex) : Bool := decide (r.machineSize ≤ sizeLimit)

/-- The regular expression that a pattern stands for, if its matching machine fits. -/
def compile (pattern : String) (fits : String → Regex → Bool := fitsEstimate) :
    Except CompileError Regex :=
  match do (← parse pattern).toRegex {} with
  | .error fault => .error (.invalid pattern fault)
  | .ok (r, _) => if fits pattern r then .ok r else .error .tooLarge

/-- What a pattern stands for is the same whatever may fit. -/
theorem compile_of_fits {pattern : String} {fits : String → Regex → Bool} {r : Regex}
    (h : compile pattern fits = .ok r) : compile pattern (fun _ _ => true) = .ok r := by
  unfold compile at h ⊢
  split at h
  · cases h
  · split at h
    · exact h
    · cases h

/-- The pattern that matches exactly one text: the characters with a meaning of their own are
escaped. -/
def escape (text : String) : String :=
  String.ofList (text.toList.flatMap fun c => if isMeta c then ['\\', c] else [c])

end SchemaSieve.Regex
