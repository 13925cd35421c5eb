import ClientGen.Api.Models
import ClientGen.Api.Operations
import ClientGen.Api.Selection

/-!
# Compiling a specification

A Swagger 2.0 document compiles in a fixed order, since each step reads the tables of the
steps before it: every reference is checked, the definitions become models, the paths
become services, and the tag filter drops services and the models no kept service uses.
Examples may then have their references expanded, and the last entry of each table is
marked for the templates. The root URL joins the first scheme, the host and the base path.
-/
namespace ClientGen

namespace Api

/-- The only specification version that compiles. -/
def supportedVersion : String := "2.0"

/-- The table with only its last entry marked by `mark`, every other one unmarked. -/
def markLastEntry {α : Type} (mark : Bool → α → α) : Table α → Table α
  | [] => []
  | [(k, x)] => [(k, mark true x)]
  | (k, x) :: rest => (k, mark false x) :: markLastEntry mark rest

/-- The root URL of a document: the first scheme and the host when a host is given (a
host without schemes is reached relative to the page's scheme), then the base path unless
it is `/`. -/
def rootUrlOf (doc : Value) : Except Fault String := do
  let host := (doc.field "host").getD .null
  let start ← if host.truthy then do
      let schemes := (doc.field "schemes").getD .null
      let scheme ← Operations.firstItem schemes
      let lead := if schemes.truthy then scheme.display ++ "://" else "//"
      match host with
      | .str h => pure (lead ++ h)
      | _ => throw .wrongOperand
    else pure ""
  let basePath := (doc.field "basePath").getD .null
  if basePath.truthy && !basePath.same (.str "/") then
    match basePath with
    | .str b => pure (start ++ b)
    | _ => throw .wrongOperand
  else pure start

/-- The example of a model with every reference in it replaced by its target. -/
def expandExample (doc : Value) (m : Model) : Except Fault Model :=
  match m.sample with
  | .null => .ok m
  | sample => return { m with sample := ← Reference.expand doc sample }

/-- Compiles a document under the given options. -/
def compile (config : Config) (doc : Value) : Logged Api := do
  let version ← Logged.lift (doc.getD "swagger" .null)
  if !version.same (.str supportedVersion) then
    throw (.unsupportedDocument
      s!"Invalid swagger specification. Must be a {supportedVersion}. Currently {version.display}")
  let _ ← Logged.lift (Reference.checkAll doc)
  let models ← Models.build config ((doc.field "definitions").getD .null)
  let services ← Operations.build config doc models
  Logged.note .debug .compiler
    s!"Compiled {models.length} models and {services.length} services"
  let filter := Selection.Filter.ofTags config.includeTags config.excludeTags
    config.ignoreUnusedModels
  let (models, services) ← filter.apply models services
  let models ← if config.generateExamples then
      Logged.lift (models.mapM fun (k, m) => return (k, ← expandExample doc m))
    else pure models
  let url ← Logged.lift (rootUrlOf doc)
  pure {
    models := markLastEntry (fun last m => { m with isLast := last }) models
    services := markLastEntry (fun last s => { s with isLast := last }) services
    rootUrl := url }

end Api

end ClientGen
