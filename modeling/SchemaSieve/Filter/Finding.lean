import SchemaSieve.Filter.Pattern
import SchemaSieve.Rule.Tree

/-!
# Findings

What is wrong with rules or with discovered objects. No finding stops the work: what it is about is
left out, and the finding is handed back.
-/

namespace SchemaSieve

/-- What is wrong with a node of a rule tree. -/
inductive RuleFault where
  | emptyPattern
  | misplaced (child parent : RuleNode)
  deriving DecidableEq

def RuleFault.reason : RuleFault → String
  | emptyPattern => "rule has an empty pattern"
  | misplaced child parent => s!"{child.text} cannot be placed under {parent.text}"

/-- What is wrong with a discovered object. -/
inductive ObjectFault where
  | nameless (kind : ObjectKind)
  | tableless
  | misplaced (kind parent : ObjectKind)
  | misplacedTop (kind : ObjectKind)
  deriving DecidableEq

def ObjectFault.reason : ObjectFault → String
  | nameless kind => s!"{kind.name} has no name"
  | tableless => "column has no owning table"
  | misplaced kind parent => s!"{kind.name} cannot appear under a {parent.name}"
  | misplacedTop kind => s!"{kind.name} cannot appear at the top level"

/-- Something wrong with rules or objects, and where. -/
inductive Finding where
  | invalidPattern (pattern location : String) (error : Regex.CompileError)
  | malformedRule (location : String) (fault : RuleFault)
  | malformedObject (path : String) (fault : ObjectFault)
  deriving DecidableEq

namespace Finding

/-- The word under which findings are grouped. -/
def category : Finding → String
  | invalidPattern .. => "invalid_pattern"
  | malformedRule .. => "malformed_rule_tree"
  | malformedObject .. => "malformed_live_node"

def message : Finding → String
  | invalidPattern pattern location error =>
    s!"invalid pattern '{pattern}' at {location}: {error.message}"
  | malformedRule location fault => s!"malformed rule tree at {location}: {fault.reason}"
  | malformedObject path fault => s!"malformed live node {path}: {fault.reason}"

end Finding

/-- The filter of lists of sources. The first source that does not compile is the error. -/
def NameFilter.ofSources (includes excludes : List String) : Except Finding NameFilter := do
  let read (location source : String) : Except Finding NamePattern :=
    (NamePattern.ofSource source).mapError (.invalidPattern source location)
  let includes ← includes.mapM (read "include patterns")
  let excludes ← excludes.mapM (read "exclude patterns")
  return ⟨mergeNew [] includes, mergeNew [] excludes⟩

end SchemaSieve
