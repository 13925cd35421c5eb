import ClientGen.Api.Basic
import ClientGen.Config
import ClientGen.Json.Write
import ClientGen.Naming

/-!
# Pieces shared by the generated files

Every generated file is TypeScript text built from the compiled API and the names the
run's options give: the module class and file, and the configuration class, interface and
file. Most files start with a banner line and the generation comment. Documentation is
written as `/** … */` blocks, and examples as JSON literals. Blanks at the end of a line
never reach a file: `trimLines` removes them once the whole text is built.
-/
namespace ClientGen.Render

/-- The text of lines, each ended by a line break. -/
def lines (ls : List String) : String := String.join (ls.map (· ++ "\n"))

/-- The indentation of a nesting level: two spaces a level. -/
def indentOf (level : Nat) : String := String.ofList (List.replicate (2 * level) ' ')

/-- A documentation block at `level`, followed by the indentation of the line it
documents. It opens on a line of its own, and each line of the stripped text is one line
of the block. No text, or a false value, leaves only the indentation; only text can be
written as a block. -/
def docBlock (text : Value) (level : Nat) : Except Fault String :=
  let indent := indentOf level
  if !text.truthy then .ok indent
  else match text with
    | .str s =>
      let body := (Text.splitOn (Text.strip s) "\n").map fun line =>
        indent ++ " *" ++ (if line = "" then "" else " " ++ line) ++ "\n"
      .ok ("\n" ++ indent ++ "/**\n" ++ String.join body ++ indent ++ " */\n" ++ indent)
    | _ => .error .missingOperation

/-- A value as a JSON literal indented by two spaces a member, its continuation lines
shifted to `level`. -/
def literal (v : Value) (level : Nat) : Except Fault String := do
  let text ← Json.write ⟨some 2, false⟩ v
  pure (Text.replace text "\n" ("\n" ++ indentOf level))

/-- The text with the blanks at the end of every line removed. -/
def trimLines (s : String) : String :=
  "\n".intercalate ((Text.splitOn s "\n").map Text.stripEnd)

/-- A line importing a class from a file. -/
def importLine (cls path : String) : String :=
  "import \x7b " ++ cls ++ " \x7d from '" ++ path ++ "';\n"

/-- An optional type's text, `None` when there is none. -/
def typeText : Option TypeExpr → String
  | some t => t.text
  | none => "None"

/-- The names the generated files share. -/
structure Context where
  config : Config
  /-- The comment naming the generating command, with its line break, or nothing. -/
  header : String
  rootUrl : String
  moduleClass : String
  moduleFile : String
  configurationClass : String
  configurationInterface : String
  configurationFile : String

/-- The file stem of the module: the kebab-case class name, with a final `-module` written
`.module` as the framework's style asks. -/
def moduleFileOf (moduleClass : String) : String :=
  let stem := Naming.fileName moduleClass
  if Text.endsWith stem "-module" then Text.takeChars stem (stem.length - 7) ++ ".module"
  else stem

/-- The shared names of a run with the given options and root URL. -/
def Context.of (config : Config) (rootUrl : String) : Context :=
  let moduleClass := Naming.className (config.apiName ++ "Module")
  let configurationClass := Naming.className (config.apiName ++ "Configuration")
  { config, rootUrl, moduleClass, configurationClass
    header := if config.addGenerationComment then
        "// Generated by " ++ config.commandLine ++ ". Do not edit.\n"
      else ""
    moduleFile := moduleFileOf moduleClass
    configurationInterface := Naming.className (config.apiName ++ "ConfigurationInterface")
    configurationFile := Naming.fileName configurationClass }

/-- The first lines of most files: the banner that turns the linter off, then the
generation comment. -/
def Context.banner (ctx : Context) : String :=
  "/* tslint:disable */\n" ++ ctx.header ++ "\n"

end ClientGen.Render
