import ClientGen.Cli.Command

/-!
# The command line

Runs the generator's command on the file system. The command works on a tree of entries;
this layer fills the tree with what the run reads from disk, runs the command, makes on
disk the changes the run made to the tree, and prints the two streams.

Directories are not listed, so the tree holds the paths a run names: the words of the
command line, the default output directory and the files the run writes, each with the
directories above it. A first run finds the files to be written; the run made on disk is a
second one, over a tree that also holds what stands at those paths. Generated files that
no run names are therefore not seen, and stay in place.
-/
namespace ClientGen.Cli

/-- The places a run may read, seen from `cwd`: each word of the command line taken as a
path, and the default output directory, each with the directories above it. -/
def namedPlaces (cwd : List String) (words : List String) : List (List String) :=
  let places := (words ++ (outputParam.default.map fun d => [d]).getD []).map (resolve cwd)
  (places.flatMap fun p => Disk.ancestors p ++ [p]).eraseDups

/-- The places of a tree's entries, with the directories above them. -/
def placesOf (d : Disk) : List (List String) :=
  (d.entries.flatMap fun (p, _) => Disk.ancestors p ++ [p]).eraseDups

/-- A description of a fault that carries no message of its own. -/
def faultText : Fault → String
  | .missingOperation => "an operation applied to a value that does not have it"
  | .wrongOperand => "an operand of the wrong kind"
  | .missingKey => "a required key is missing"
  | .badValue => "a text that does not spell a value of the kind asked for"
  | .overflow => "a number too large"
  | .nestingTooDeep => "nesting too deep"
  | .invalidUtf8 => "a file that is not UTF-8"
  | .pathOccupied => "a file stands where a directory is needed"
  | .notADirectory => "a file stands on the way to a directory"
  | .isADirectory => "a directory stands where a file is written"
  | .malformedJson => "the configuration file is not JSON"
  | .malformedYaml _ => "the configuration file is not YAML"
  | .outOfRange => "an index out of range"
  | f => f.message?.getD ""

/-- The text of a place of the file system. -/
def placeText (place : List String) : String := "/" ++ "/".intercalate place

/-- What stands at a place of the file system: a file with its text, a directory, or
nothing, also when a file stands above it. -/
def probe (place : List String) : IO (Option Entry) := do
  try
    pure (some (.file (← IO.FS.readFile (placeText place))))
  catch e =>
    match e with
    | .inappropriateType _ code _ => pure (if code = 21 then some .dir else none)
    | _ => pure none

/-- A tree holding what stands at the given places. -/
def snapshot (places : List (List String)) : IO Disk := do
  let mut d := Disk.empty
  for p in places do
    if !p.isEmpty then
      if let some e ← probe p then d := d.set p e
  pure d

/-- Makes one change of a tree on the file system. -/
def apply (c : Disk.Change) : IO Unit :=
  match c with
  | .makeDir p => IO.FS.createDirAll (placeText p)
  | .write p content => IO.FS.writeFile (placeText p) content
  | .remove p => IO.FS.removeFile (placeText p)

end ClientGen.Cli

/-- Runs the generator's command with the words given. -/
def main (words : List String) : IO UInt32 := do
  let cwd := ClientGen.Disk.segmentsOf (toString (← IO.currentDir))
  let named := ClientGen.Cli.namedPlaces cwd words
  let first ← ClientGen.Cli.snapshot named
  let trial := ClientGen.Cli.run "" cwd words first
  let tree ← ClientGen.Cli.snapshot (named ++ ClientGen.Cli.placesOf trial.disk).eraseDups
  let outcome := ClientGen.Cli.run "" cwd words tree
  for c in ClientGen.Disk.changes tree outcome.disk do
    ClientGen.Cli.apply c
  IO.print outcome.stdout
  IO.eprint outcome.stderr
  if let some f := outcome.uncaught then
    IO.eprintln ("Error: " ++ ClientGen.Cli.faultText f)
  pure outcome.exitCode.toUInt32
