import SchemaSieve.Check.Remark

/-!
# Summaries of checks

Remarks are shown by severity, errors first, and within a severity by category.
-/

namespace SchemaSieve

namespace Severity

/-- The heading of the remarks of a severity. -/
def heading : Severity → String
  | error => "❌ Errors"
  | warning => "⚠️  Warnings"
  | info => "ℹ️  Info"

/-- The sign in front of a remark. -/
def sign : Severity → String
  | error => "✗"
  | warning => "⚠"
  | info => "ℹ"

/-- Errors first. -/
def all : List Severity := [error, warning, info]

end Severity

namespace Remark

/-- Where a remark points, in brackets. -/
def place (r : Remark) : String :=
  match r.file, r.location with
  | some file, some location => s!" [{file}: {location}]"
  | some file, none => s!" [{file}]"
  | none, some location => s!" [{location}]"
  | none, none => ""

def line (r : Remark) : String := s!"  {r.severity.sign} [{r.category}]{r.place}: {r.message}"

end Remark

/-- The remarks of one severity. -/
def ofSeverity (severity : Severity) (remarks : List Remark) : List Remark :=
  remarks.filter (·.severity == severity)

/-- A line of one sign. -/
private def rule (sign : Char) : String := String.ofList (List.replicate 60 sign)

/-- The lines about the remarks of one severity, sorted by category. -/
def sectionLines (remarks : List Remark) (severity : Severity) : List String :=
  let rs := ofSeverity severity remarks
  if rs.isEmpty then []
  else
    ["", s!"{severity.heading} ({rs.length}):", rule '─'] ++
      (rs.mergeSort fun a b => a.category ≤ b.category).map Remark.line

/-- The lines that end a summary. -/
def verdictLines (remarks : List Remark) : List String :=
  let errors := (ofSeverity .error remarks).length
  let warnings := (ofSeverity .warning remarks).length
  ["", rule '═'] ++
    if errors = 0 && warnings = 0 then ["✅ All checks passed!"]
    else
      s!"Summary: {errors} error(s), {warnings} warning(s)" ::
        if 0 < errors then ["", "❌ Rules have errors that must be fixed."] else []

/-- The lines of a summary. -/
def summaryLines (remarks : List Remark) : List String :=
  Severity.all.flatMap (sectionLines remarks) ++ verdictLines remarks

end SchemaSieve
