import ClientGen.Render.Basic

/-!
# Model files

Each model is a file of its own: an interface for an object, a union of string literals
(with a namespace of constants when enum modules are on) for an enum, and a type alias
for anything else. A model imports the models it depends on. With examples on, a model
with an example gets a file returning it, and the model index re-exports every model.
-/
namespace ClientGen.Render

/-- The line of an object property: its documentation, key, optional mark and type. -/
def memberLine (p : Member) : Except Fault String := do
  let doc ← docBlock p.description 1
  pure (doc ++ p.key ++ (if p.required then "" else "?") ++ ": " ++ p.type.text ++ ";\n")

/-- The interface of an object model. -/
def objectBody (m : Model) : Except Fault String := do
  let doc ← docBlock m.description 0
  let members ← m.members.mapM memberLine
  let parents := if m.parents.isEmpty then "" else " extends " ++ ", ".intercalate m.parents
  let additional := match m.additionalType with
    | some t => "  [key: string]: " ++ t.text ++ ";\n"
    | none => ""
  pure (doc ++ "export interface " ++ m.className ++ parents ++ " \x7b\n" ++
    String.join members ++ additional ++ "\x7d\n")

/-- The string literal of an enum constant. -/
def constantLiteral (c : Constant) : String := "'" ++ c.value ++ "'"

/-- The type of an enum model, and its namespace of constants when enum modules are on. -/
def enumBody (ctx : Context) (m : Model) : Except Fault String := do
  let doc ← docBlock m.description 0
  let alternatives := String.join (m.constants.map fun c =>
    constantLiteral c ++ (if c.isLast then "" else " | "))
  let cls := m.className
  let constantsModule := if !ctx.config.enumModule then "" else
    "export namespace " ++ cls ++ " \x7b\n" ++
    String.join (m.constants.map fun c =>
      "  export const " ++ c.name ++ ": " ++ cls ++ " = " ++ constantLiteral c ++ ";\n") ++
    "  export function values(): " ++ cls ++ "[] \x7b\n" ++
    "    return [\n" ++
    String.join (m.constants.map fun c =>
      "      " ++ c.name ++ (if c.isLast then "" else ",") ++ "\n") ++
    lines ["    ];", "  \x7d", "\x7d"]
  pure (doc ++ "export type " ++ cls ++ " = " ++ alternatives ++ ";\n" ++ constantsModule)

/-- A type alias. -/
def aliasBody (m : Model) (target : Option TypeExpr) : Except Fault String := do
  let doc ← docBlock m.description 0
  pure (doc ++ "export type " ++ m.className ++ " = " ++ typeText target ++ ";\n")

/-- The file of a model, importing the given models. -/
def modelFile (ctx : Context) (m : Model) (imports : List Model) : Except Fault String := do
  let body ← match m.kind with
    | .object => objectBody m
    | .enum => enumBody ctx m
    | .array => aliasBody m m.elementType
    | .simple | .union => aliasBody m m.aliasType
  pure (ctx.banner ++ String.join (imports.map fun d => importLine d.className ("./" ++ d.fileName))
    ++ body)

/-- The file returning the example of a model. -/
def exampleFile (ctx : Context) (m : Model) : Except Fault String := do
  let doc ← docBlock (.str ("Example of " ++ m.className)) 0
  let value ← literal m.sample 1
  pure (ctx.banner ++ importLine m.className ("./" ++ m.fileName) ++ doc ++
    "export function get" ++ m.className ++ "Example(): " ++ m.className ++ " \x7b\n" ++
    "  return " ++ value ++ ";\n" ++ "\x7d\n")

/-- The index re-exporting every model. -/
def modelIndex (ctx : Context) (models : List Model) : String :=
  ctx.header ++ "\n" ++ String.join (models.map fun m =>
    "export \x7b " ++ m.className ++ " \x7d from './models/" ++ m.fileName ++ "';\n")

end ClientGen.Render
