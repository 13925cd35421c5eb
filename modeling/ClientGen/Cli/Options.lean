/-!
# The command's parameters

The generator's command takes the document as its one argument and a set of options. Each
parameter has the kind of value it takes, which decides how its text is checked and how
the help names it. The help lists the options in the order they are declared, each with
its flags and value name in a first column of thirty characters and its help text wrapped
to forty-six characters beside it; a first column too wide for that puts the text on the
next line.
-/
namespace ClientGen.Cli

/-- The kind of value a parameter takes. -/
inductive Kind where
  /-- A path, which may name a file when `files` holds and a directory when `dirs` holds,
  and must exist when `mustExist` holds. -/
  | path (files dirs mustExist : Bool)
  /-- Any text. -/
  | text
  /-- Text that spells an integer. -/
  | count
  /-- One of a few words. -/
  | choice (names : List String)
  /-- Nothing: the flag is on when given. -/
  | flag
  deriving Repr, DecidableEq, Inhabited

/-- The name of what a path parameter names, as messages and the help write it. -/
def pathNoun (files dirs : Bool) : String :=
  if files && !dirs then "File" else if dirs && !files then "Directory" else "Path"

/-- The name the help gives a kind's value. -/
def Kind.metavar : Kind → String
  | .path files dirs _ => (pathNoun files dirs).toUpper
  | .text => "TEXT"
  | .count => "INTEGER"
  | .choice names => "[" ++ "|".intercalate names ++ "]"
  | .flag => ""

/-- A parameter of the command: its name, its flags (none for the argument), the kind of
its value, the value it has when not given, its help text, and whether it is handled
before every other parameter. -/
structure Param where
  name : String
  flags : List String
  kind : Kind
  default : Option String
  help : String
  eager : Bool
  deriving Repr, Inhabited

/-- Whether the parameter is the positional argument. -/
def Param.isArgument (p : Param) : Bool := p.flags.isEmpty

/-- Whether the parameter takes a value after its flag. -/
def Param.takesValue (p : Param) : Bool := p.kind ≠ .flag

/-- How messages name a parameter: the argument by its upper-case name, an option by its
flags. -/
def Param.hint (p : Param) : String :=
  if p.isArgument then "'" ++ p.name.toUpper ++ "'"
  else " / ".intercalate (p.flags.map fun f => "'" ++ f ++ "'")

/-- An option of the command. -/
def option (name : String) (flags : List String) (kind : Kind) (help : String) : Param :=
  ⟨name, flags, kind, none, help, false⟩

/-- The document to generate from. -/
def documentParam : Param := ⟨"swagger_file", [], .path true false true, none, "", false⟩

/-- The directory the client is written to. -/
def outputParam : Param :=
  ⟨"output", ["--output", "-o"], .path false true false, some "src/app/api", "Output directory",
    false⟩

/-- The option that prints the help. -/
def helpParam : Param := ⟨"help", ["--help"], .flag, none, "Show this message and exit.", true⟩

/-- The parameters in the order they are declared. -/
def params : List Param := [
  documentParam,
  outputParam,
  option "config" ["--config", "-c"] (.path true false true) "JSON or YAML configuration file",
  option "include_tags" ["--include-tags"] .text "Comma-separated tags of the services to generate",
  option "exclude_tags" ["--exclude-tags"] .text "Comma-separated tags of the services to skip",
  option "keep_unused_models" ["--keep-unused-models"] .flag
    "Generate models not used by any service",
  option "min_params_for_container" ["--min-params-for-container"] .count
    "Number of parameters from which a parameters container is used",
  option "sort_params" ["--sort-params"] (.choice ["asc", "desc", "none"]) "",
  option "default_tag" ["--default-tag"] .text "Tag of operations declaring none",
  option "prefix" ["--prefix"] .text "Prefix of the module and configuration classes",
  option "templates" ["--templates"] (.path false true true)
    "Directory of templates overriding the bundled ones",
  option "generate_examples" ["--generate-examples"] .flag
    "Generate an example file for each model declaring an example",
  option "verbose" ["--verbose", "-v"] .flag "",
  helpParam]

/-- The name the command is run by. -/
def commandName : String := "swagger-to-code"

/-- The usage line. -/
def usage : String := "Usage: " ++ commandName ++ " [OPTIONS] SWAGGER_FILE"

/-- Whether a flag is a long one, written with two dashes. -/
def isLong (flag : String) : Bool := flag.startsWith "--"

/-- The long flags, in the order they are declared. -/
def longFlags : List String := params.flatMap fun p => p.flags.filter isLong

/-- The parameter a long flag names. -/
def longParam? (flag : String) : Option Param :=
  if isLong flag then params.find? (·.flags.contains flag) else none

/-- The parameter a one-letter flag names. -/
def shortParam? (flag : String) : Option Param :=
  if isLong flag then none else params.find? (·.flags.contains flag)

/-- The parameter of a name. -/
def param? (name : String) : Option Param := params.find? (·.name = name)

/-- The words of a text in lines of at most `width` characters; a word longer than that
stands on a line of its own. -/
def wrapWords (width : Nat) (words : List String) : List String :=
  let step (acc : List String × String) (w : String) : List String × String :=
    let (done, line) := acc
    if line.isEmpty then (done, w)
    else if line.length + 1 + w.length ≤ width then (done, line ++ " " ++ w)
    else (done ++ [line], w)
  let (done, last) := words.foldl step ([], "")
  if last.isEmpty then done else done ++ [last]

/-- The help's first column of an option: its flags, short ones first, and its value. -/
def Param.helpName (p : Param) : String :=
  let flags := (p.flags.filter (!isLong ·)) ++ p.flags.filter isLong
  let names := ", ".intercalate flags
  if p.takesValue then names ++ " " ++ p.kind.metavar else names

/-- The help's lines of an option. -/
def Param.helpLines (p : Param) : List String :=
  let first := "  " ++ p.helpName
  let column := 34
  let text := wrapWords 46 ((p.help.splitOn " ").filter (· ≠ ""))
  let pad := String.ofList (List.replicate column ' ')
  match text with
  | [] => [first]
  | line :: more =>
    let head :=
      if p.helpName.length ≤ 30 then
        [first ++ String.ofList (List.replicate (column - first.length) ' ') ++ line]
      else [first, pad ++ line]
    head ++ more.map (pad ++ ·)

/-- The help the `--help` option prints. -/
def helpText : String :=
  let rows := (params.filter (!·.isArgument)).flatMap Param.helpLines
  usage ++ "\n\nOptions:\n" ++ String.join (rows.map (· ++ "\n"))

end ClientGen.Cli
