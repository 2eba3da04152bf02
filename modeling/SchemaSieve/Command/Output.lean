/-!
# What a command prints

A command prints lines and messages, and may fail; what it printed before it failed stays. A failure
is told with its causes.
-/

namespace SchemaSieve.Command

/-- What was printed as result and as messages. -/
structure Printed where
  results : String := ""
  messages : String := ""

/-- Why a command failed: messages, each caused by the next one. -/
structure Failure where
  message : String
  causes : List String := []

/-- Runs that print and may fail. -/
abbrev Run (m : Type → Type) := ExceptT Failure (StateT Printed m)

variable {m : Type → Type} [Monad m]

/-- Prints a text as it is. -/
def printText (text : String) : Run m Unit :=
  modify fun p => { p with results := p.results ++ text }

def printLine (line : String) : Run m Unit := printText (line ++ "\n")

def printLines (lines : List String) : Run m Unit := lines.forM printLine

/-- Prints a line that is no result. -/
def tell (line : String) : Run m Unit :=
  modify fun p => { p with messages := p.messages ++ line ++ "\n" }

def fail {α : Type} (message : String) (causes : List String := []) : Run m α :=
  throw ⟨message, causes⟩

/-- The result of some work, or a failure that says what the work was for. -/
def orFail {α ε : Type} (work : Run m (Except ε α)) (message : String) (causes : ε → List String) :
    Run m α := do
  match ← work with
  | .ok x => return x
  | .error e => fail message (causes e)

/-! ## Reports of failures -/

/-- A message whose lines are indented; the first one may start with a number. -/
private def indentedCause (number : Option Nat) (message : String) : String :=
  let (first, others) :=
    match number with
    | none => ("    ", "    ")
    | some n =>
      let digits := toString n
      (String.ofList (List.replicate (5 - digits.length) ' ') ++ digits ++ ": ", "       ")
  first ++ ("\n" ++ others).intercalate (message.splitOn "\n")

/-- A failure with its causes, numbered if there are several. -/
def Failure.report (f : Failure) : String :=
  let causes :=
    match f.causes with
    | [] => []
    | [cause] => [indentedCause none cause]
    | causes => causes.mapIdx fun i cause => indentedCause (some i) cause
  "Error: " ++ f.message ++
    (if causes.isEmpty then "" else "\n\nCaused by:") ++
    String.join (causes.map ("\n" ++ ·)) ++ "\n"

/-- How a program ended. -/
structure Outcome where
  exitCode : Nat
  printed : Printed

/-- Runs a command to its end. -/
def Run.outcome (run : Run m Unit) : m Outcome := do
  let (result, printed) ← StateT.run (ExceptT.run run) {}
  match result with
  | .ok () => return ⟨0, printed⟩
  | .error f => return ⟨1, { printed with messages := printed.messages ++ f.report }⟩

end SchemaSieve.Command
