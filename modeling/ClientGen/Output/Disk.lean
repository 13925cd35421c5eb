import ClientGen.Fault
import ClientGen.Text.Edit

/-!
# A directory tree

The files a run reads and writes, kept as a table from paths to entries. A path is the
list of its segments below the root of the tree, which is a directory that always exists.
Paths are followed the way a POSIX file system follows them, `..` leading to the
directory above, and making directories and writing files fail the way it does: a file
where a directory is needed, or a directory where a file is written.
-/
namespace ClientGen

/-- What a path holds. -/
inductive Entry where
  | file (content : String)
  | dir
  deriving Repr, DecidableEq, Inhabited

/-- A directory tree: every path below its root that holds something. -/
structure Disk where
  entries : List (List String × Entry)
  deriving Repr, Inhabited

namespace Disk

/-- The tree holding nothing but its root. -/
def empty : Disk := ⟨[]⟩

/-- The segments of a relative path: separators and `.` segments add nothing. -/
def segmentsOf (path : String) : List String :=
  (Text.splitOn path "/").filter fun s => s ≠ "" && s ≠ "."

/-- The text of a path below a root that has the text `root`. -/
def pathText (root : String) (path : List String) : String :=
  root ++ String.join (path.map ("/" ++ ·))

/-- The text of a relative path. -/
def relativeText (path : List String) : String := "/".intercalate path

/-- What a path holds; the root is a directory. -/
def find? (d : Disk) (path : List String) : Option Entry :=
  if path.isEmpty then some .dir else (d.entries.find? (·.1 = path)).map (·.2)

/-- Whether a path is a directory. -/
def isDir (d : Disk) (path : List String) : Bool := d.find? path matches some .dir

/-- Whether a path is a file. -/
def isFile (d : Disk) (path : List String) : Bool := d.find? path matches some (.file _)

/-- Whether a path holds anything. -/
def exists? (d : Disk) (path : List String) : Bool := (d.find? path).isSome

/-- The tree with `path` holding `e`, in place when it held something. -/
def set (d : Disk) (path : List String) (e : Entry) : Disk :=
  if d.entries.any (·.1 = path) then ⟨d.entries.map fun (q, old) => if q = path then (q, e) else (q, old)⟩
  else ⟨d.entries ++ [(path, e)]⟩

/-- The tree without the entry at `path`. -/
def remove (d : Disk) (path : List String) : Disk := ⟨d.entries.filter (·.1 ≠ path)⟩

/-- The directories above a path, below the root, outermost first. -/
def ancestors (path : List String) : List (List String) :=
  (List.range (path.length - 1)).map fun i => path.take (i + 1)

/-- Where a path leads when the file system follows it from a directory of the tree. -/
inductive Place where
  /-- To this path of the tree, whether or not anything stands there. -/
  | within (path : List String)
  /-- Above the root, where the tree sees nothing. -/
  | outside
  /-- Through a segment before the last that names nothing. -/
  | missing
  /-- Through a segment before the last that names a file. -/
  | throughFile
  deriving Repr, DecidableEq, Inhabited

/-- Follows the segments of a path from the directory `here`: each segment before the last
must name a directory, and `..` leads to the directory above. -/
def follow (d : Disk) (here : List String) : List String → Place
  | [] => .within here
  | name :: rest =>
    if name = ".." then
      if here.isEmpty then .outside else d.follow here.dropLast rest
    else if rest.isEmpty then .within (here ++ [name])
    else
      match d.find? (here ++ [name]) with
      | some .dir => d.follow (here ++ [name]) rest
      | some (.file _) => .throughFile
      | none => .missing

/-- The path of the tree a path leads to from the root, when it leads into the tree. -/
def place? (d : Disk) (path : List String) : Option (List String) :=
  match d.follow [] path with
  | .within q => some q
  | _ => none

/-- What one attempt to make a directory comes to. -/
inductive Made where
  /-- The tree with the directory there. -/
  | made (d : Disk)
  /-- A file stands where the directory was to be. -/
  | occupied
  /-- A directory above it is missing. -/
  | missing
  /-- A file stands above it. -/
  | notADirectory

/-- Makes one directory, keeping a directory already there. A path above the root changes
nothing in the tree. -/
def mkdirOnce (d : Disk) (path : List String) : Made :=
  match d.follow [] path with
  | .within q =>
    match d.find? q with
    | some .dir => .made d
    | some (.file _) => .occupied
    | none => .made (d.set q .dir)
  | .outside => .made d
  | .missing => .missing
  | .throughFile => .notADirectory

/-- The tree with `path` made a directory, and the directories above it: when one above is
missing, its parent as the path reads is made first, then the path itself. A file above the
path fails as not a directory; a file at the path fails as occupied; a directory there is
kept. The root is always there. -/
def makeDirs (d : Disk) : List String → Except Fault Disk
  | [] => .ok d
  | path@(_ :: _) =>
    match d.mkdirOnce path with
    | .made d' => .ok d'
    | .occupied => .error .pathOccupied
    | .notADirectory => .error .notADirectory
    | .missing => do
      let d' ← d.makeDirs path.dropLast
      match d'.mkdirOnce path with
      | .made d'' => .ok d''
      | .occupied => .error .pathOccupied
      | _ => .error .notADirectory
termination_by path => path.length

/-- The tree with a file written at `path`, making its directory first. A directory at the
path cannot be replaced by a file; a path above the root changes nothing in the tree. -/
def writeFile (d : Disk) (path : List String) (content : String) : Except Fault Disk := do
  let d ← d.makeDirs path.dropLast
  match d.follow [] path with
  | .within q => if d.isDir q then throw .isADirectory else pure (d.set q (.file content))
  | .outside => pure d
  | .missing | .throughFile => throw .notADirectory

/-- The names of the entries directly in a directory, with their entries. -/
def children (d : Disk) (path : List String) : List (String × Entry) :=
  d.entries.filterMap fun (q, e) =>
    if path.isPrefixOf q then
      match q.drop path.length with
      | [name] => some (name, e)
      | _ => none
    else none

/-- Whether a directory holds nothing. -/
def isEmptyDir (d : Disk) (path : List String) : Bool :=
  !d.entries.any fun (q, _) => q.length > path.length && path.isPrefixOf q

/-- What the tree shows: each file with its content, and each empty directory as its path
with a final `/` and no content, ordered by path. -/
def listing (d : Disk) : List (String × Option String) :=
  let shown := d.entries.filterMap fun (q, e) =>
    match e with
    | .file c => some (relativeText q, some c)
    | .dir => if d.isEmptyDir q then some (relativeText q ++ "/", none) else none
  shown.mergeSort fun a b => decide (a.1 ≤ b.1)

/-- A change that turns one tree into another. -/
inductive Change where
  | makeDir (path : List String)
  | write (path : List String) (content : String)
  | remove (path : List String)
  deriving Repr, DecidableEq, Inhabited

/-- The changes that turn `before` into `after`: each directory and file of `after` that
`before` does not hold as it is, in the order `after` made them, then each file of `before`
that `after` no longer holds. -/
def changes (before after : Disk) : List Change :=
  let made := after.entries.filterMap fun (p, e) =>
    if before.find? p = some e then none
    else
      match e with
      | .dir => some (.makeDir p)
      | .file c => some (.write p c)
  let gone := before.entries.filterMap fun (p, e) =>
    match e, after.find? p with
    | .file _, none => some (.remove p)
    | _, _ => none
  made ++ gone

end Disk

end ClientGen
