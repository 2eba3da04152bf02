import SchemaSieve.Files.Access
import SchemaSieve.Files.Path
import SchemaSieve.Live.Snapshot
import SchemaSieve.Rule.Reading

/-!
# Projects

A project file holds rules or names a file that does, and may name the file of a snapshot. The files
it names are seen from the directory it stands in.
-/

namespace SchemaSieve

open Files (FileAccess FileError)
open Yaml (Node Reading Site TextFault)

/-- Why a document cannot be loaded from its file. -/
inductive LoadError where
  | unreadable (e : FileError)
  | notDocument (f : TextFault)
  | twoRuleSources (rulesFile : String)

namespace LoadError

def message : LoadError → String
  | unreadable e => s!"IO error: {e.message}"
  | notDocument f => s!"YAML parse error: {f.message}"
  | twoRuleSources rulesFile =>
    s!"Configuration error: both inline rules and rules_file '{rulesFile}' are set"

/-- The messages from an error down to what caused it. -/
def chain : LoadError → List String
  | e@(unreadable cause) => [e.message, cause.message]
  | e@(notDocument cause) => [e.message, cause.message]
  | e@(twoRuleSources _) => [e.message]

end LoadError

/-- Reads a file as a document. -/
def loadWith {m : Type → Type} [Monad m] {α : Type} (files : FileAccess m)
    (read : String → Except TextFault α) (path : String) : m (Except LoadError α) := do
  match ← files.readText path with
  | .ok text => return (read text).mapError .notDocument
  | .error e => return .error (.unreadable e)

def RulesDocument.load {m : Type → Type} [Monad m] (files : FileAccess m) (path : String) :
    m (Except LoadError RulesDocument) := loadWith files ofYaml path

def Snapshot.load {m : Type → Type} [Monad m] (files : FileAccess m) (path : String) :
    m (Except LoadError Snapshot) := loadWith files ofYaml path

/-- What a project file says. -/
structure Project where
  name : Option String := none
  rulesFile : Option String := none
  rules : Option RulesDocument := none
  snapshotFile : Option String := none
  deriving DecidableEq

namespace Project

/-- A project of which some fields were read. -/
private structure Draft where
  name : Option (Option String) := none
  rulesFile : Option (Option String) := none
  rules : Option (Option RulesDocument) := none
  snapshotFile : Option (Option String) := none

private def addField (p : Draft) (key : String) (site : Site) (n : Node) : Reading Draft := do
  let path (old : Option (Option String)) :=
    Reading.once old key (Reading.option (Reading.text "path string") site n)
  match key with
  | "project" =>
    let name ← Reading.once p.name key (Reading.option (Reading.text "a string") site n)
    return { p with name }
  | "rules_file" => return { p with rulesFile := ← path p.rulesFile }
  | "rules" =>
    let rules ← Reading.once p.rules key (Reading.option RulesDocument.read site n)
    return { p with rules }
  | "snapshot_file" => return { p with snapshotFile := ← path p.snapshotFile }
  | _ => return p

/-- Reads a project. -/
def read (site : Site) (n : Node) : Reading Project :=
  Reading.mapping "struct DbsiftConfig" ({} : Draft) addField
    (fun p => .ok ⟨p.name.join, p.rulesFile.join, p.rules.join, p.snapshotFile.join⟩) site n

def ofYaml (text : String) : Except TextFault Project := Yaml.readText read text

/-- The project with its files seen from a directory. -/
def inDirectory (p : Project) (directory : String) : Project :=
  { p with
    rulesFile := p.rulesFile.map (Files.join directory)
    snapshotFile := p.snapshotFile.map (Files.join directory) }

/-- Takes the rules from the file that a project names; a project that holds rules itself must not
name one. -/
def withRulesFile {m : Type → Type} [Monad m] (files : FileAccess m) (p : Project) :
    m (Except LoadError Project) := do
  match p.rulesFile with
  | none => return .ok p
  | some path =>
    if p.rules.isSome then return .error (.twoRuleSources path)
    else return (← RulesDocument.load files path).map fun d => { p with rules := some d }

/-- Loads a project with its rules. -/
def load {m : Type → Type} [Monad m] (files : FileAccess m) (path : String) :
    m (Except LoadError Project) := do
  match ← loadWith files ofYaml path with
  | .ok p => (p.inDirectory ((Files.parent? path).getD ".")).withRulesFile files
  | .error e => return .error e

/-- The rules of a project; without any it has the empty document. -/
def rulesOrEmpty (p : Project) : RulesDocument := p.rules.getD .empty

end Project

end SchemaSieve
