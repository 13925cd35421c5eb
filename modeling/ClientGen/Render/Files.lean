import ClientGen.Render.Models
import ClientGen.Render.Services
import ClientGen.Render.Support

/-!
# The files of a client

A compiled API renders to a table of files keyed by their path under the output
directory, in this order: each model (followed by its example when examples are on), the
model index, each service, the service index, the module, the configuration, the strict
response type and the base service. The indexes and the module can be turned off. A path
that comes again keeps its place and takes the later text.
-/
namespace ClientGen.Render

/-- The models the given class names name, in order and once each; names of models the
table no longer holds are skipped. -/
def importsOf (api : Api) (names : List String) : List Model :=
  let found := names.filterMap fun name =>
    (api.models.get? (Naming.modelKey name)).map fun m => (Naming.modelKey name, m)
  (found.foldl (fun (acc : List (String × Model)) (key, m) =>
    if acc.any (·.1 = key) then acc else acc ++ [(key, m)]) []).map (·.2)

/-- The models a service imports: those of successful responses and parameters, then those
of error responses not already named. -/
def serviceImportNames (s : Service) : List String :=
  s.errorDependencies.foldl (fun names n => if names.contains n then names else names ++ [n])
    s.dependencies

/-- Adds the file of a model, and of its example when examples are on and it has one. -/
def addModel (ctx : Context) (api : Api) (files : Table String) (m : Model) :
    Except Fault (Table String) := do
  let text ← modelFile ctx m (importsOf api m.dependencies)
  let files := files.put ("models/" ++ m.fileName ++ ".ts") (trimLines text)
  if ctx.config.generateExamples && !(m.sample matches .null) then
    let sampleText ← exampleFile ctx m
    pure (files.put ("models/" ++ m.exampleFile ++ ".ts") (trimLines sampleText))
  else pure files

/-- Adds the file of a service. -/
def addService (ctx : Context) (api : Api) (files : Table String) (s : Service) :
    Except Fault (Table String) := do
  let text ← serviceFile ctx s (importsOf api (serviceImportNames s))
  pure (files.put ("services/" ++ s.serviceFile ++ ".ts") (trimLines text))

/-- Adds a file when `wanted`. -/
def addWhen (wanted : Bool) (path text : String) (files : Table String) : Table String :=
  if wanted then files.put path (trimLines text) else files

/-- The module file's path. -/
def modulePath (config : Config) : String :=
  (Context.of config "").moduleFile ++ ".ts"

/-- The files of a compiled API under the given options. -/
def render (config : Config) (api : Api) : Except Fault (Table String) := do
  let ctx := Context.of config api.rootUrl
  let models := api.models.values
  let services := api.services.values
  let files ← models.foldlM (addModel ctx api) []
  let files := addWhen config.modelIndex "models.ts" (modelIndex ctx models) files
  let files ← services.foldlM (addService ctx api) files
  let files := addWhen config.serviceIndex "services.ts" (serviceIndex ctx services) files
  let files := addWhen config.apiModule (ctx.moduleFile ++ ".ts") (moduleFile ctx services) files
  let files := addWhen true (ctx.configurationFile ++ ".ts") (configurationFile ctx) files
  let files := addWhen true "strict-http-response.ts" (strictResponseFile ctx) files
  pure (addWhen true "base-service.ts" (baseServiceFile ctx) files)

end ClientGen.Render
