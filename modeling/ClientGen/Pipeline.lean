import ClientGen.Api.Compile
import ClientGen.Render.Files
import ClientGen.Output.Writer

/-!
# Generating a client

The whole way from a document to files: compile it, render the API and write the files
under the output directory, removing the stale ones unless the options keep them.
-/
namespace ClientGen

namespace Pipeline

/-- The top-level files that exist only when their option is on. -/
def optionalFiles (config : Config) : List String :=
  (if config.modelIndex then [] else ["models.ts"]) ++
    (if config.serviceIndex then [] else ["services.ts"]) ++
    (if config.apiModule then [] else [Render.modulePath config])

/-- The writer the options ask for. -/
def writer (config : Config) : Writer := ⟨config.removeStaleFiles, optionalFiles config⟩

/-- Generates the client of a document under `outDir`, giving the paths written. `root`
is the text of the tree's root in reports. -/
def generate (config : Config) (root : String) (doc : Value) (outDir : List String) :
    Run (List (List String)) := do
  let api ← Run.ofLogged (Api.compile config doc)
  let files ← Run.lift (Render.render config api)
  let written ← (writer config).writeAll root outDir files
  Run.note .info .generator s!"Generated {written.length} files in {Disk.pathText root outDir}"
  pure written

end Pipeline

end ClientGen
