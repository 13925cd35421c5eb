import ClientGen.Cli.Arguments
import ClientGen.Pipeline
import ClientGen.Document.Load

/-!
# The generator's command

A run of the command over a directory tree. The command line is read first; a word that
cannot be read stops the run with a usage error. The help option, when given, prints the
help and stops. Then each parameter is checked, those given first in the order they were
given, then the others in the order they are declared; the first value refused stops the
run with a usage error, and so do positional words beyond the document.

A path parameter is resolved against the working directory, `.` and `..` segments
included. The configuration file, when given, is read as YAML when its name ends in `.yaml`
or `.yml` and as JSON otherwise; an empty YAML value stands for no options. The options
given on the command line then replace those of the file, and the generated files name the
command line that made them: the document and each option given, in their declared order,
where a value naming an existing path is shortened to its last segment.

A fault with a message for the user ends the run with that message and status 1; any other
fault ends it as an uncaught failure, also with status 1. The log goes to the error stream,
each record as its level, the reporting part and the message; debug records only with
`--verbose`.
-/
namespace ClientGen.Cli

/-- A parameter's value once checked: a place in the tree, a text, an integer, a flag, or
nothing for a parameter not given that has no default. -/
inductive Setting where
  | path (place : List String)
  | text (value : String)
  | count (value : Int)
  | flag (on : Bool)
  | absent
  deriving Repr, DecidableEq, Inhabited

/-- The place a path names, seen from the working directory `cwd`: an absolute path starts
from the root, `.` segments add nothing and `..` goes up, never above the root. -/
def resolve (cwd : List String) (path : String) : List String :=
  let start := if path.startsWith "/" then [] else cwd
  (path.splitOn "/").foldl
    (fun acc s => if s = "" || s = "." then acc else if s = ".." then acc.dropLast else acc ++ [s])
    start

/-- The last segment of a path, the empty text when it has none. -/
def lastSegment (path : String) : String :=
  ((path.splitOn "/").filter fun s => s ≠ "" && s ≠ ".").getLastD ""

/-- The text of a word in messages: quoted as a literal. -/
def shown (word : String) : String := Value.quoted (.str word)

/-- Checks a path against the tree. A path that does not exist is refused only when it
must exist; one that does is refused when it is a file where only directories are taken,
or a directory where only files are. -/
def checkPath (tree : Disk) (cwd : List String) (p : Param) (files dirs mustExist : Bool)
    (word : String) : Except UsageError Setting :=
  let place := resolve cwd word
  let noun := pathNoun files dirs
  match tree.find? place with
  | none =>
    if mustExist then .error (.invalid p.hint s!"{noun} {shown word} does not exist.")
    else .ok (.path place)
  | some (.file _) =>
    if files then .ok (.path place) else .error (.invalid p.hint s!"{noun} {shown word} is a file.")
  | some .dir =>
    if dirs then .ok (.path place)
    else .error (.invalid p.hint s!"{noun} {shown word} is a directory.")

/-- Checks a parameter's word, or its default when it was not given. -/
def checkParam (tree : Disk) (cwd : List String) (p : Param) (given : Option String) :
    Except UsageError Setting :=
  match p.kind, given.orElse fun _ => p.default with
  | .flag, given => .ok (.flag given.isSome)
  | _, none => if p.isArgument then .error (.missing p.hint) else .ok .absent
  | .path files dirs mustExist, some word => checkPath tree cwd p files dirs mustExist word
  | .text, some word => .ok (.text word)
  | .count, some word =>
    match Text.readInteger word with
    | some n => .ok (.count n)
    | none => .error (.invalid p.hint s!"{shown word} is not a valid integer.")
  | .choice names, some word =>
    if names.contains word then .ok (.text word)
    else
      let choices := ", ".intercalate (names.map shown)
      .error (.invalid p.hint s!"{shown word} is not one of {choices}.")

/-- The order parameters are checked in: the eager ones, then those given in the order
they were first given, then the others in the order they are declared. -/
def checkOrder (r : Invocation) : List Param :=
  let rank (p : Param) : Nat × Nat :=
    (if p.eager then 0 else 1, (r.position? p.name).getD params.length)
  params.mergeSort fun a b => decide ((rank a).1 < (rank b).1) ||
    (decide ((rank a).1 = (rank b).1) && decide ((rank a).2 ≤ (rank b).2))

/-- The checked value of every parameter, by name. -/
abbrev Settings := List (String × Setting)

/-- Checks every parameter in order, stopping at the first refused. -/
def checkAll (tree : Disk) (cwd : List String) (r : Invocation) : Except UsageError Settings :=
  (checkOrder r).foldlM (fun acc p => do
    let s ← checkParam tree cwd p (r.value? p.name)
    pure (acc ++ [(p.name, s)])) []

/-- The checked value of a parameter. -/
def Settings.get (s : Settings) (name : String) : Setting := (s.lookup name).getD .absent

/-- What a run of the command leaves: its exit status, what it wrote on its output and
error streams, the fault it stopped on that nothing handled, and the tree. -/
structure Outcome where
  exitCode : Nat
  stdout : String
  stderr : String
  uncaught : Option Fault
  disk : Disk
  deriving Inhabited

/-- The outcome of a refused command line. -/
def usageFailure (disk : Disk) (e : UsageError) : Outcome :=
  ⟨2, "", usage ++ "\nTry '" ++ commandName ++ " --help' for help.\n\nError: " ++ e.message ++ "\n",
    none, disk⟩

/-- The options a configuration file's text holds. An empty YAML value holds none. -/
def configOfFile (name text : String) : Except Fault Config := do
  let normalized := String.ofList (Load.normalizeLineEnds text.toList)
  let d ← if Load.isYaml name then do
      let v ← Yaml.read normalized
      pure (if v.truthy then v else .map [])
    else
      match Json.read normalized with
      | some v => pure v
      | none => throw .malformedJson
  Config.ofDocument d

/-- The command line echoed in the generated files. `root` is the text of the tree's root,
`tree` the tree before the run. -/
def echoedCommand (root : String) (tree : Disk) (cwd : List String) (s : Settings) : String :=
  let shownValue (p : Param) : Option String :=
    match s.get p.name with
    | .absent | .flag false => none
    | .flag true => some ""
    | .count n => some (toString n)
    | .path place =>
      let text := Disk.pathText root place
      some (if tree.exists? place then lastSegment text else text)
    | .text word =>
      if word.isEmpty then none
      else some (if tree.exists? (resolve cwd word) then lastSegment word else word)
  let echoed := params.filter (·.name ≠ helpParam.name)
  let arguments := (echoed.filter (·.isArgument)).filterMap shownValue
  let options := (echoed.filter (!·.isArgument)).flatMap fun p =>
    match shownValue p with
    | none => []
    | some v =>
      if some v = p.default then []
      else
        let flag := p.flags.headD ("--" ++ p.name)
        if p.kind = .flag then [flag] else [flag, v]
  " ".intercalate ("swagger_to_code" :: arguments ++ options)

/-- The options of a run: those of the configuration file, replaced by those given. -/
def applySettings (config : Config) (root : String) (s : Settings) : Config :=
  let config := match s.get "include_tags" with
    | .text t => { config with includeTags := .str t } | _ => config
  let config := match s.get "exclude_tags" with
    | .text t => { config with excludeTags := .str t } | _ => config
  let config := match s.get "keep_unused_models" with
    | .flag true => { config with ignoreUnusedModels := false } | _ => config
  let config := match s.get "min_params_for_container" with
    | .count n => { config with minParamsForContainer := n } | _ => config
  let config := match s.get "sort_params" with
    | .text t => { config with sortParams := t } | _ => config
  let config := match s.get "default_tag" with
    | .text t => { config with defaultTag := t } | _ => config
  let config := match s.get "prefix" with
    | .text t => { config with apiName := t } | _ => config
  let config := match s.get "templates" with
    | .path place => { config with templates := .str (Disk.pathText root place) } | _ => config
  match s.get "generate_examples" with
  | .flag true => { config with generateExamples := true }
  | _ => config

/-- The text of a file of the tree. -/
def fileText (tree : Disk) (place : List String) : String :=
  match tree.find? place with
  | some (.file content) => content
  | _ => ""

/-- The log as the error stream shows it, debug records only when `verbose`. -/
def logText (verbose : Bool) (records : Array LogRecord) : String :=
  String.join (records.toList.filterMap fun r =>
    if r.level = .debug && !verbose then none
    else some (r.level.name ++ " " ++ r.origin.loggerName ++ ": " ++ r.message ++ "\n"))

/-- Generates the client with checked parameters. -/
def execute (root : String) (cwd : List String) (tree : Disk) (s : Settings) : Outcome :=
  let verbose := s.get "verbose" = .flag true
  let stop (log : String) (disk : Disk) (f : Fault) : Outcome :=
    match f.message? with
    | some m => ⟨1, "", log ++ "Error: " ++ m ++ "\n", none, disk⟩
    | none => ⟨1, "", log, some f, disk⟩
  let placeOf (name : String) : List String :=
    match s.get name with
    | .path place => place
    | _ => []
  let loaded : Except Fault Config :=
    match s.get "config" with
    | .path place => configOfFile (Disk.pathText root place) (fileText tree place)
    | _ => .ok Config.default
  match loaded with
  | .error f => stop "" tree f
  | .ok config =>
    let config := { applySettings config root s with
      commandLine := echoedCommand root tree cwd s }
    let document := placeOf documentParam.name
    let step : Run (List (List String)) := do
      let doc ← Run.lift (Load.document (Disk.pathText root document) (fileText tree document))
      Pipeline.generate config root doc (placeOf outputParam.name)
    let (result, w) := Run.exec step ⟨tree, #[]⟩
    let log := logText verbose w.logs
    match result with
    | .ok _ => ⟨0, "", log, none, w.disk⟩
    | .error f => stop log w.disk f

/-- Runs the command with the words of its command line over a tree whose root has the
text `root`, from the working directory `cwd`. -/
def run (root : String) (cwd : List String) (words : List String) (tree : Disk) : Outcome :=
  match readCommandLine words with
  | .error e => usageFailure tree e
  | .ok r =>
    let document := r.positional.head?
    let r := { r with
      values := r.values ++ (document.map fun d => [(documentParam.name, d)]).getD [],
      order := r.order ++ [documentParam.name] }
    if (r.value? helpParam.name).isSome then ⟨0, helpText, "", none, tree⟩
    else
      match checkAll tree cwd r with
      | .error e => usageFailure tree e
      | .ok s =>
        match r.positional.drop 1 with
        | [] => execute root cwd tree s
        | extra => usageFailure tree (.extra extra)

end ClientGen.Cli
