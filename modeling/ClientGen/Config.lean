import ClientGen.Document.Display
import ClientGen.Text.Integer

/-!
# Generator configuration

The options of a run, and how they are read from a configuration document. Keys may be
written in snake case (`camel_case`) or in the camel case of older configuration files
(`camelCase`); unknown keys are ignored, and a later key overrides an earlier one.

A value is read as the kind of its option:

* a flag takes a Boolean, one of the words `true yes on 1` or `false no off 0` in any
  case with white space around, or the integer `0` or `1`;
* a count takes anything that reads as an integer: an integer, a Boolean, a float cut
  toward zero, or text spelling an integer;
* a text takes the plain text of any value but a list or a mapping;
* the tag filters and the template directory take any value as it is.

Null is refused for every option that has a kind. `customFileSuffix` may hold a mapping
with the suffixes of model, service and example files.
-/
namespace ClientGen

/-- The options of a run. -/
structure Config where
  /-- Tags of the services to generate: null for all, a list or a comma-separated text. -/
  includeTags : Value
  /-- Tags of the services to skip. -/
  excludeTags : Value
  /-- Whether models that no kept service uses are dropped. -/
  ignoreUnusedModels : Bool
  /-- The number of parameters from which an operation takes them in one container. -/
  minParamsForContainer : Int
  /-- The order of parameters by name: `asc`, `desc`, or anything else for none. -/
  sortParams : String
  /-- The tag of operations that declare none. -/
  defaultTag : String
  /-- Whether operation names start with a lowercase letter. -/
  camelCase : Bool
  /-- The name in front of the module and configuration classes. -/
  apiName : String
  modelFileSuffix : String
  serviceFileSuffix : String
  exampleFileSuffix : String
  /-- Whether each model with an example gets an example file. -/
  generateExamples : Bool
  /-- A directory of templates, kept as given. -/
  templates : Value
  errorHandler : Bool
  apiModule : Bool
  modelIndex : Bool
  serviceIndex : Bool
  enumModule : Bool
  /-- Whether generated files that a run no longer produces are removed. -/
  removeStaleFiles : Bool
  /-- Whether each file starts with a comment naming the command that generated it. -/
  addGenerationComment : Bool
  /-- The command echoed in that comment. -/
  commandLine : String
  deriving Inhabited

namespace Config

/-- The options of a run that sets none. -/
def default : Config where
  includeTags := .null
  excludeTags := .null
  ignoreUnusedModels := true
  minParamsForContainer := 2
  sortParams := "desc"
  defaultTag := "Api"
  camelCase := false
  apiName := "Api"
  modelFileSuffix := ""
  serviceFileSuffix := ".service"
  exampleFileSuffix := "-example"
  generateExamples := false
  templates := .null
  errorHandler := true
  apiModule := true
  modelIndex := true
  serviceIndex := true
  enumModule := true
  removeStaleFiles := true
  addGenerationComment := true
  commandLine := "swagger_to_code"

/-- A value refused for an option. -/
def refuse (key what : String) (value : Value) : Fault :=
  .configuration s!"Configuration '{key}' must be {what}. Currently {value.quoted}"

/-- Refuses null for an option that has a kind. -/
def notNull (key : String) (value : Value) : Except Fault Unit :=
  match value with
  | .null => .error (.configuration s!"Configuration '{key}' cannot be null")
  | _ => .ok ()

/-- The words read as true. -/
def trueWords : List String := ["true", "yes", "on", "1"]

/-- The words read as false. -/
def falseWords : List String := ["false", "no", "off", "0"]

/-- A flag's value. -/
def readFlag (key : String) (value : Value) : Except Fault Bool := do
  notNull key value
  match value with
  | .bool b => pure b
  | .str s =>
    let word := Text.lower (Text.strip s)
    if trueWords.contains word then pure true
    else if falseWords.contains word then pure false
    else throw (refuse key "a boolean" value)
  | .int 0 => pure false
  | .int 1 => pure true
  | _ => throw (refuse key "a boolean" value)

/-- A count's value: an integer, a truth value, a float with an integral value, or a text or
byte string that spells an integer; an infinite float is too large for any count. -/
def readCount (key : String) (value : Value) : Except Fault Int := do
  notNull key value
  match value with
  | .int n => pure n
  | .bool b => pure (if b then 1 else 0)
  | .float bits =>
    match Value.floatInteger bits with
    | some (n, _) => pure n
    | none =>
      if (Float.ofBits bits).isNaN then throw (refuse key "an integer" value)
      else throw .overflow
  | .str s =>
    match Text.readInteger s with
    | some n => pure n
    | none => throw (refuse key "an integer" value)
  | .bytes data =>
    match Text.readAsciiInteger data with
    | some n => pure n
    | none => throw (refuse key "an integer" value)
  | _ => throw (refuse key "an integer" value)

/-- A text option's value. -/
def readText (key : String) (value : Value) : Except Fault String := do
  notNull key value
  match value with
  | .map _ | .list _ => throw (refuse key "a string" value)
  | v => pure v.display

/-- The option a configuration key names, in snake case. -/
def optionName (key : String) : String :=
  match key with
  | "includeTags" => "include_tags"
  | "excludeTags" => "exclude_tags"
  | "ignoreUnusedModels" => "ignore_unused_models"
  | "minParamsForContainer" => "min_params_for_container"
  | "sortParams" => "sort_params"
  | "defaultTag" => "default_tag"
  | "camelCase" => "camel_case"
  | "errorHandler" => "error_handler"
  | "apiModule" => "api_module"
  | "modelIndex" => "model_index"
  | "serviceIndex" => "service_index"
  | "enumModule" => "enum_module"
  | "removeStaleFiles" => "remove_stale_files"
  | "generateExamples" => "generate_examples"
  | k => k

/-- The options with the value of one key set. -/
def set (c : Config) (name : String) (value : Value) : Except Fault Config :=
  match name with
  | "include_tags" => pure { c with includeTags := value }
  | "exclude_tags" => pure { c with excludeTags := value }
  | "templates" => pure { c with templates := value }
  | "ignore_unused_models" => return { c with ignoreUnusedModels := ← readFlag name value }
  | "camel_case" => return { c with camelCase := ← readFlag name value }
  | "generate_examples" => return { c with generateExamples := ← readFlag name value }
  | "error_handler" => return { c with errorHandler := ← readFlag name value }
  | "api_module" => return { c with apiModule := ← readFlag name value }
  | "model_index" => return { c with modelIndex := ← readFlag name value }
  | "service_index" => return { c with serviceIndex := ← readFlag name value }
  | "enum_module" => return { c with enumModule := ← readFlag name value }
  | "remove_stale_files" => return { c with removeStaleFiles := ← readFlag name value }
  | "add_generation_comment" => return { c with addGenerationComment := ← readFlag name value }
  | "min_params_for_container" =>
    return { c with minParamsForContainer := ← readCount name value }
  | "sort_params" => return { c with sortParams := ← readText name value }
  | "default_tag" => return { c with defaultTag := ← readText name value }
  | "prefix" => return { c with apiName := ← readText name value }
  | "model_file_suffix" => return { c with modelFileSuffix := ← readText name value }
  | "service_file_suffix" => return { c with serviceFileSuffix := ← readText name value }
  | "example_file_suffix" => return { c with exampleFileSuffix := ← readText name value }
  | _ => pure c

/-- The options with the file suffixes of a `customFileSuffix` mapping set. -/
def setSuffixes (c : Config) (suffixes : Value) : Except Fault Config := do
  let pick (kind : String) : Option Value := suffixes.field kind
  let c ← match pick "model" with
    | some v => pure { c with modelFileSuffix := ← readText "customFileSuffix.model" v }
    | none => pure c
  let c ← match pick "service" with
    | some v => pure { c with serviceFileSuffix := ← readText "customFileSuffix.service" v }
    | none => pure c
  match pick "example" with
  | some v => pure { c with exampleFileSuffix := ← readText "customFileSuffix.example" v }
  | none => pure c

/-- The options a configuration document sets, over the defaults. -/
def ofDocument (d : Value) : Except Fault Config :=
  match d with
  | .map entries =>
    let step (c : Config) (entry : Value × Value) : Except Fault Config :=
      match entry with
      | (.str k, value) =>
        let name := optionName k
        match name, value with
        | "customFileSuffix", .map _ => setSuffixes c value
        | _, _ => c.set name value
      | _ => pure c
    entries.foldlM step Config.default
  | other => .error (.configuration s!"Configuration must be a mapping. Currently {other.kindName}")

/-- The options written out as a document, in their order, without the command. -/
def toDocument (c : Config) : Value :=
  Value.object [
    ("include_tags", c.includeTags), ("exclude_tags", c.excludeTags),
    ("ignore_unused_models", .bool c.ignoreUnusedModels),
    ("min_params_for_container", .int c.minParamsForContainer),
    ("sort_params", .str c.sortParams), ("default_tag", .str c.defaultTag),
    ("camel_case", .bool c.camelCase), ("prefix", .str c.apiName),
    ("model_file_suffix", .str c.modelFileSuffix),
    ("service_file_suffix", .str c.serviceFileSuffix),
    ("example_file_suffix", .str c.exampleFileSuffix),
    ("generate_examples", .bool c.generateExamples), ("templates", c.templates),
    ("error_handler", .bool c.errorHandler), ("api_module", .bool c.apiModule),
    ("model_index", .bool c.modelIndex), ("service_index", .bool c.serviceIndex),
    ("enum_module", .bool c.enumModule), ("remove_stale_files", .bool c.removeStaleFiles),
    ("add_generation_comment", .bool c.addGenerationComment)]

end Config

end ClientGen
