import SchemaSieve.Filter.Decide
import SchemaSieve.Reconcile.Annotation

/-!
# Arguments of the command line

A command line is the name of a command with its options. The options that name the sources may
stand before or behind the command, and variables of the environment stand in for those that are
missing.
-/

namespace SchemaSieve.Command

/-- Where rules and snapshots come from: a project file, or files of their own. -/
structure Sources where
  config : Option String := none
  rules : Option String := none
  snapshot : Option String := none
  deriving DecidableEq

/-- How a listing is written. -/
inductive Format where
  | text
  | json
  deriving DecidableEq

/-- What is asked for. -/
inductive Job where
  | check
  | decide (kind : ObjectKind) (path : ObjectPath)
  | reconcile (format : Format) (only : Option Membership) (showRules : Bool)
  | scaffold (output : Option String) (force : Bool)
  deriving DecidableEq

/-- A command line: a request for help or for the version, or a command. -/
inductive Request where
  | help
  | version
  | run (sources : Sources) (job : Job)
  deriving DecidableEq

/-! ## Options -/

/-- The options. -/
inductive Flag where
  | help
  | version
  | config
  | rules
  | snapshot
  | catalog
  | schema
  | table
  | format
  | only
  | showMatches
  | output
  | force
  deriving DecidableEq

namespace Flag

def long : Flag → String
  | help => "help"
  | version => "version"
  | config => "config"
  | rules => "rules"
  | snapshot => "snapshot"
  | catalog => "catalog"
  | schema => "schema"
  | table => "table"
  | format => "format"
  | only => "only"
  | showMatches => "show-matches"
  | output => "output"
  | force => "force"

def short? : Flag → Option Char
  | help => some 'h'
  | version => some 'V'
  | config => some 'c'
  | output => some 'o'
  | _ => none

def takesValue : Flag → Bool
  | help | version | showMatches | force => false
  | _ => true

/-- Whether an option can have a value. The name of a file is never empty. -/
def allows : Flag → String → Bool
  | config, v | rules, v | snapshot, v | output, v => !v.isEmpty
  | format, v => v == "text" || v == "json"
  | only, v => v == "included" || v == "excluded" || v == "undetermined"
  | _, _ => true

/-- The options that name sources. -/
def sources : List Flag := [config, rules, snapshot]

/-- The variable of the environment that stands in for an option. -/
def envName? : Flag → Option String
  | config => some "DBSIFT_CONFIG"
  | rules => some "DBSIFT_RULES"
  | snapshot => some "DBSIFT_SNAPSHOT"
  | _ => none

end Flag

/-- The commands by name, each with the options of its own and the count of words it takes. -/
structure Form where
  name : String
  flags : List Flag
  words : Nat

def forms : List Form := [
  ⟨"check", [], 0⟩,
  ⟨"decide", [.catalog, .schema, .table], 2⟩,
  ⟨"reconcile", [.format, .only, .showMatches], 0⟩,
  ⟨"scaffold", [.output, .force], 0⟩]

/-! ## Reading options -/

/-- Options with their values, and words, both in reverse. -/
structure Given where
  options : List (Flag × String) := []
  words : List String := []

namespace Given

def value? (g : Given) (flag : Flag) : Option String := g.options.lookup flag

def has (g : Given) (flag : Flag) : Bool := (g.value? flag).isSome

end Given

/-- Why reading stops before the end: for help or the version, or because the line makes no sense. -/
inductive Stop where
  | help
  | version
  | misuse
  deriving DecidableEq

/-- Takes an option with a value. No option may be given twice. -/
def Given.add (g : Given) (flag : Flag) (value : String) : Except Stop Given :=
  if flag = .help then .error .help
  else if flag = .version then .error .version
  else if g.has flag || !flag.allows value then .error .misuse
  else .ok { g with options := (flag, value) :: g.options }

/-- Whether a word is taken for an option. -/
def isOption (word : String) : Bool := word.startsWith "-" && word != "-"

/-- What a word that is an option says: a complete option, or one whose value is the next word. -/
inductive OptionWord where
  | complete (flag : Flag) (value : String)
  | awaits (flag : Flag)

/-- An option in its long form, with a value behind an equals sign or without one. -/
private def longOption (flags : List Flag) (body : List Char) : Except Stop OptionWord :=
  let name := String.ofList (body.takeWhile (· != '='))
  match flags.find? (·.long == name), body.dropWhile (· != '=') with
  | some flag, [] => .ok (if flag.takesValue then .awaits flag else .complete flag "")
  | some flag, _ :: value =>
    if flag.takesValue then .ok (.complete flag (String.ofList value)) else .error .misuse
  | none, _ => .error .misuse

/-- An option in its short form, with a value right behind it or behind an equals sign. -/
private def shortOption (flags : List Flag) : List Char → Except Stop OptionWord
  | [] => .error .misuse
  | c :: rest =>
    match flags.find? (·.short? == some c), rest with
    | some flag, rest =>
      if !flag.takesValue then .ok (.complete flag "")
      else
        match rest with
        | [] => .ok (.awaits flag)
        | '=' :: value => .ok (.complete flag (String.ofList value))
        | value => .ok (.complete flag (String.ofList value))
    | none, _ => .error .misuse

def optionWord (flags : List Flag) (word : String) : Except Stop OptionWord :=
  match word.toList with
  | '-' :: '-' :: body => longOption flags body
  | '-' :: body => shortOption flags body
  | _ => .error .misuse

/-- What words a command line takes: the first one ends the reading, or those that make sense behind
the words before them, which are given in reverse. -/
inductive Words where
  | first
  | fitting (fits : List String → String → Bool)

/-- Takes a word. -/
def Given.addWord (g : Given) (fits : List String → String → Bool) (word : String) :
    Except Stop Given :=
  if fits g.words word then .ok { g with words := word :: g.words } else .error .misuse

/-- Takes options and words from left to right; the rest starts with the word that ended the reading.
Behind the word `--` there are only words. `awaiting` is the option whose value comes next. -/
def readGiven (flags : List Flag) (words : Words) (awaiting : Option Flag) (g : Given) :
    List String → Except Stop (Given × List String)
  | [] => if awaiting.isSome then .error .misuse else .ok (g, [])
  | word :: rest =>
    match awaiting with
    | some flag =>
      if isOption word then .error .misuse
      else do readGiven flags words none (← g.add flag word) rest
    | none =>
      if word == "--" then
        match words with
        | .first => if rest.isEmpty then .ok (g, []) else .error .misuse
        | .fitting fits => do return (← rest.foldlM (·.addWord fits) g, [])
      else if isOption word then
        match optionWord flags word with
        | .ok (.awaits flag) => readGiven flags words (some flag) g rest
        | .ok (.complete flag value) => do readGiven flags words none (← g.add flag value) rest
        | .error e => .error e
      else
        match words with
        | .first => .ok (g, word :: rest)
        | .fitting fits => do readGiven flags words none (← g.addWord fits word) rest

/-! ## Reading command lines -/

/-- The value of a source: behind the command, before it, or from the environment. -/
private def source? (env : String → Option String) (outer inner : Given) (flag : Flag) :
    Option String :=
  inner.value? flag <|> outer.value? flag <|> flag.envName?.bind env

/-- Whether a variable is read although its value is none that the option can have. -/
private def hasBadVariable (env : String → Option String) (outer inner : Given) : Bool :=
  Flag.sources.any fun flag =>
    !(outer.has flag && inner.has flag) && !((flag.envName?.bind env).all flag.allows)

private def membership? : String → Option Membership
  | "included" => some .included
  | "excluded" => some .excluded
  | "undetermined" => some .undetermined
  | _ => none

/-- The command of a form with what was given behind its name. -/
private def jobOf (form : Form) (g : Given) : Except Stop Job :=
  match form.name, g.words.reverse with
  | "decide", [kind, name] =>
    match ObjectKind.parse kind with
    | .ok kind =>
      .ok (.decide kind ⟨g.value? .catalog, g.value? .schema, g.value? .table, some name⟩)
    | .error _ => .error .misuse
  | "check", [] => .ok .check
  | "reconcile", [] =>
    .ok (.reconcile (if g.value? .format == some "json" then .json else .text)
      ((g.value? .only).bind membership?) (g.has .showMatches))
  | "scaffold", [] => .ok (.scaffold (g.value? .output) (g.has .force))
  | _, _ => .error .misuse

/-- Whether a word fits behind others: a command that takes words takes the kind of an object and its
name. -/
private def fits (form : Form) (before : List String) (word : String) : Bool :=
  before.length < form.words && (!before.isEmpty || (ObjectKind.parse word).toOption.isSome)

/-- Reads a command line in an environment. -/
def readArguments (env : String → Option String) (args : List String) : Except Stop Request := do
  let (outer, rest) ← readGiven (.help :: .version :: Flag.sources) .first none {} args
  match rest with
  | [] => .error .misuse
  | "help" :: topic =>
    match topic with
    | [] => return .help
    | [name] =>
      if name == "help" || forms.any (·.name == name) then return .help else .error .misuse
    | _ => .error .misuse
  | name :: rest =>
    match forms.find? (·.name == name) with
    | none => .error .misuse
    | some form =>
      let flags := .help :: Flag.sources ++ form.flags
      let (inner, _) ← readGiven flags (.fitting (fits form)) none {} rest
      let job ← jobOf form inner
      if hasBadVariable env outer inner then .error .misuse
      else
        let source? := source? env outer inner
        return .run ⟨source? .config, source? .rules, source? .snapshot⟩ job

/-- What a command line asks for, if it makes sense. -/
def Request.ofArguments (env : String → Option String) (args : List String) : Option Request :=
  match readArguments env args with
  | .ok r => some r
  | .error .help => some .help
  | .error .version => some .version
  | .error .misuse => none

end SchemaSieve.Command
