import SchemaSieve.Check.Summary
import SchemaSieve.Command.Arguments
import SchemaSieve.Command.Output
import SchemaSieve.Project
import SchemaSieve.Reconcile.Listing
import SchemaSieve.Reconcile.Scaffold
import SchemaSieve.Rule.Text
import SchemaSieve.Text.Quoted

/-!
# Commands

What each command does with its sources. A file that is named on the command line goes before one
that the project names.
-/

namespace SchemaSieve.Command

open Files (FileAccess)
open Text.Quoted (quotePath)

variable {m : Type → Type} [Monad m]

/-! ## Sources -/

namespace Sources

/-- The project, if there is one. -/
def project? (s : Sources) (files : FileAccess m) : Run m (Option Project) := do
  match s.config with
  | none => return none
  | some path =>
    some <$> orFail (liftM (Project.load files path))
      ("Failed to load configuration from " ++ quotePath path) LoadError.chain

/-- The rules, and the file they come from. -/
def loadRules (s : Sources) (files : FileAccess m) : Run m (RulesDocument × Option String) := do
  match s.rules with
  | some path =>
    let d ← orFail (liftM (RulesDocument.load files path))
      ("Failed to read rules file " ++ quotePath path) LoadError.chain
    return (d, some path)
  | none =>
    match ← s.project? files with
    | some p => return (p.rulesOrEmpty, p.rulesFile <|> s.config)
    | none => fail "No rules given. Pass --rules or --config (or set DBSIFT_RULES)"

/-- The file of the snapshot, if there is one. -/
def snapshotFile? (s : Sources) (files : FileAccess m) : Run m (Option String) := do
  match s.snapshot with
  | some path => return some path
  | none => return (← s.project? files).bind (·.snapshotFile)

/-- The live tree of the snapshot. -/
def loadLive (s : Sources) (files : FileAccess m) : Run m LiveTree := do
  match ← s.snapshotFile? files with
  | none =>
    fail "No snapshot given. Pass --snapshot or set snapshot_file in the project file"
  | some path =>
    let snapshot ← orFail (liftM (Snapshot.load files path))
      ("Failed to read snapshot " ++ quotePath path) LoadError.chain
    return snapshot.tree

end Sources

/-! ## The commands -/

/-- Shows what is to be said about the rules, and fails if there are errors. -/
def runCheck (files : FileAccess m) (s : Sources) : Run m Unit := do
  printLine "🔍 Checking dbsift rules..."
  let (d, origin) ← s.loadRules files
  let live ← if (← s.snapshotFile? files).isSome then some <$> s.loadLive files else pure none
  let remarks := (RuleTree.ofDocument d).remarks origin live
  printLines (summaryLines remarks)
  let errors := (ofSeverity .error remarks).length
  if 0 < errors then fail s!"Rules have {errors} error(s). Fix them before using them."

/-- The sign in front of a decision. -/
private def sign : Decision → String
  | .included => "✅"
  | .excluded => "🚫"

/-- Decides about one object. -/
def runDecide (files : FileAccess m) (s : Sources) (kind : ObjectKind) (path : ObjectPath) :
    Run m Unit := do
  let (d, _) ← s.loadRules files
  let compilation := (RuleTree.ofDocument d).compile
  compilation.findings.forM fun f => tell ("⚠ " ++ f.message)
  let object := s!"{kind.name} {path.text}"
  match compilation.sieve.decide path kind with
  | .ok decision => printLine s!"{sign decision} {object}: {decision.name}"
  | .error f => fail ("Cannot decide " ++ object) [f.message]

/-- Lists the objects of the snapshot with their memberships. -/
def runReconcile (files : FileAccess m) (s : Sources) (format : Format) (only : Option Membership)
    (showRules : Bool) : Run m Unit := do
  let (d, _) ← s.loadRules files
  let rules := RuleTree.ofDocument d
  let compilation := rules.compile
  let live ← s.loadLive files
  let annotated := live.reconcile compilation.sieve (if showRules then rules.shapes else [])
  let annotated := { annotated with findings := compilation.findings ++ annotated.findings }
  match format with
  | .text => printLines (annotated.lines live only (if showRules then some rules else none))
  | .json => printLine (annotated.toJson only).render

/-- Writes rules that include all objects of the snapshot. A file is not replaced unless `force` asks
for it. -/
def runScaffold (files : FileAccess m) (s : Sources) (output : Option String) (force : Bool) :
    Run m Unit := do
  let live ← s.loadLive files
  let d := live.scaffold.toDocument
  if d.isEmpty then
    tell "⚠ The snapshot holds no named objects; the scaffolded rules are empty."
  match output with
  | none => printText d.toYaml
  | some path =>
    let isPresent : Bool ← liftM (files.isPresent path)
    if isPresent && !force then fail (quotePath path ++ " already exists. Use --force to overwrite.")
    else
      orFail (liftM (files.writeText path d.toYaml)) ("Failed to write " ++ quotePath path)
        fun e => [e.message]
      printLine s!"✅ Wrote rules for {live.size} objects to {path}"

/-- Does what is asked for. -/
def Job.run (files : FileAccess m) (s : Sources) : Job → Run m Unit
  | check => runCheck files s
  | decide kind path => runDecide files s kind path
  | reconcile format only showRules => runReconcile files s format only showRules
  | scaffold output force => runScaffold files s output force

/-! ## The program -/

/-- What is printed for help. -/
def helpLines : List String := [
  "Decide which database objects to import",
  "",
  "Usage: dbsift [OPTIONS] <COMMAND>",
  "",
  "Commands:",
  "  check      Compile the rules and report invalid patterns and malformed nesting",
  "  decide     Decide whether a single object is included",
  "  reconcile  Annotate every object of the snapshot as included, excluded or undetermined",
  "  scaffold   Generate a rules file that includes everything in the snapshot",
  "  help       Print this message or the help of the given subcommand(s)",
  "",
  "Options:",
  "  -c, --config <CONFIG>      Project file (dbsift.yaml) pointing at rules and snapshot",
  "      --rules <RULES>        Rules file; overrides the project file's rules",
  "      --snapshot <SNAPSHOT>  Schema snapshot file; overrides the project file's snapshot",
  "  -h, --help                 Print help",
  "  -V, --version              Print version"]

/-- What is printed where the arguments make no sense. -/
def misuseText : String :=
  "error: the arguments make no sense\n\nFor more information, try '--help'.\n"

/-- Runs the program with arguments in an environment. -/
def runProgram (files : FileAccess m) (env : String → Option String) (args : List String) :
    m Outcome :=
  match Request.ofArguments env args with
  | none => return ⟨2, ⟨"", misuseText⟩⟩
  | some .help => Run.outcome (printLines helpLines)
  | some .version => Run.outcome (printLine "dbsift 0.1.0")
  | some (.run sources job) => Run.outcome (job.run files sources)

end SchemaSieve.Command
