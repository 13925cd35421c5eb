import ClientGen.Output.Run
import ClientGen.Table
import ClientGen.Text.Edit

/-!
# Writing the generated files

The files of a run are written under the output directory in their order, each replacing
what was there. Then, unless asked not to, the files a previous run generated and this one
did not are removed: the `.ts` files directly in `models` and `services`, and the
top-level files that only exist when an option is on. Other files are never touched.
-/
namespace ClientGen

/-- How generated files are written. -/
structure Writer where
  /-- Whether generated files this run did not produce are removed. -/
  removeStale : Bool
  /-- Top-level files that a run may not produce, removed when it does not. -/
  optionalFiles : List String

namespace Writer

/-- The directories whose `.ts` files are all generated. -/
def generatedDirs : List String := ["models", "services"]

/-- Writes one file under `outDir`, reporting it. -/
def writeOne (root : String) (outDir : List String) (written : List (List String))
    (entry : String × String) : Run (List (List String)) := do
  let path := outDir ++ Disk.segmentsOf entry.1
  Run.change fun d => d.writeFile path entry.2
  Run.note .info .writer s!"Wrote {Disk.pathText root path}"
  pure (written ++ [path])

/-- The `.ts` names directly in a directory, sorted; none when it is not a directory. -/
def sourcesIn (d : Disk) (folder : List String) : List String :=
  match d.place? folder with
  | some place =>
    if d.isDir place then
      let names := ((d.children place).map (·.1)).filter (Text.endsWith · ".ts")
      names.mergeSort fun a b => decide (a ≤ b)
    else []
  | none => []

/-- The files that may be stale: the `.ts` files of the generated directories, each
directory's sorted by name, then the optional files. An optional name that starts with `/`
is a path outside the output directory, where the tree holds nothing. -/
def candidates (w : Writer) (d : Disk) (outDir : List String) : List (List String) :=
  let inDirs := generatedDirs.flatMap fun dir =>
    (sourcesIn d (outDir ++ [dir])).map fun name => outDir ++ [dir, name]
  inDirs ++ (w.optionalFiles.filter fun name => !Text.startsWith name "/").map fun name =>
    outDir ++ Disk.segmentsOf name

/-- Removes a candidate that leads to a file, when this run did not produce it as the
candidate's path reads. -/
def removeIfStale (root : String) (outDir : List String) (produced : List (List String))
    (path : List String) : Run Unit := do
  let d ← Run.disk
  if let some place := d.place? path then
    if d.isFile place && !produced.contains (path.drop outDir.length) then
      Run.note .info .writer s!"Removing stale file {Disk.pathText root path}"
      modify fun ws => { ws with disk := ws.disk.remove place }

/-- Writes the files under `outDir`, then removes stale ones when asked; gives the paths
written. `root` is the text of the tree's root in reports. -/
def writeAll (w : Writer) (root : String) (outDir : List String) (files : Table String) :
    Run (List (List String)) := do
  let written ← files.foldlM (writeOne root outDir) []
  if w.removeStale then
    let produced := files.map fun (rel, _) => Disk.segmentsOf rel
    let found := w.candidates (← Run.disk) outDir
    found.forM (removeIfStale root outDir produced)
  pure written

end Writer

end ClientGen
