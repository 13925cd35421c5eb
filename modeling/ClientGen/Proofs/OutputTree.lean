import ClientGen.Output.Writer
import ClientGen.Proofs.DiskTree

/-!
# The tree a writer leaves

Writing a table of files under an output directory and then removing stale files leaves a tree
that is fixed file by file (`writeAll_final_tree`): each path a key names holds the content of
the last key that names it, and every other path holds what it held before, unless removal of
stale files is on and the path is a `.ts` file directly in a generated directory or an optional
file. No other file appears. The paths returned are the keys under the output directory, in
order.

This holds when no path involved climbs with `..`. The run compares the paths it produced with
its candidates as they read, while the file system follows them, so a file the run has just
written can be removed through another spelling of its path
(`writeAll_removes_file_written_through_parent`).

The run is taken apart phase by phase: the writes (`exec_foldlM_writeOne`), then each removal
(`prune_contents`) over the candidates, which `mem_candidates_iff` ties to `Writer.Stale`.
-/
namespace ClientGen

namespace Run

theorem exec_bind {α β : Type} (x : Run α) (f : α → Run β) (w : Workspace) :
    Run.exec (x >>= f) w =
      match Run.exec x w with
      | (.ok a, w') => Run.exec (f a) w'
      | (.error e, w') => (.error e, w') := by
  simp only [Run.exec, ExceptT.run_bind]
  show (StateT.run _ w) = _
  rw [StateT.run_bind]
  rcases x.run.run w with ⟨_ | a, w'⟩ <;> rfl

theorem exec_pure {α : Type} (a : α) (w : Workspace) : Run.exec (pure a) w = (.ok a, w) := rfl

theorem exec_lift {α : Type} (r : Except Fault α) (w : Workspace) :
    Run.exec (Run.lift r) w = (r, w) := rfl

theorem exec_disk (w : Workspace) : Run.exec Run.disk w = (.ok w.disk, w) := rfl

theorem exec_note (level : Level) (origin : Origin) (message : String) (w : Workspace) :
    Run.exec (Run.note level origin message) w =
      (.ok (), { w with logs := w.logs.push ⟨level, origin, message⟩ }) := rfl

/-- A change of the tree that fails leaves the workspace as it was. -/
theorem exec_change (f : Disk → Except Fault Disk) (w : Workspace) :
    Run.exec (Run.change f) w =
      match f w.disk with
      | .ok d => (.ok (), { w with disk := d })
      | .error e => (.error e, w) := by
  unfold Run.change
  rw [exec_bind, exec_disk]
  dsimp only
  rw [exec_bind, exec_lift]
  cases f w.disk <;> rfl

end Run

namespace Writer

open Disk Run

/-- What the files of a table leave at a path when written in order under `outDir` over
`before`: the content of the last one written there. -/
def writtenOver (outDir : List String) (files : Table String) (p : List String)
    (before : Option String) : Option String :=
  files.foldl (fun acc e => if p = outDir ++ Disk.segmentsOf e.1 then some e.2 else acc) before

theorem writtenOver_of_not_written {outDir p : List String} {files : Table String}
    (unwritten : ∀ e ∈ files, p ≠ outDir ++ Disk.segmentsOf e.1) (before : Option String) :
    writtenOver outDir files p before = before := by
  induction files generalizing before with
  | nil => rfl
  | cons e rest ih =>
    simp only [writtenOver, List.foldl_cons, if_neg (unwritten e (by simp))]
    exact ih (fun e' member => unwritten e' (by simp [member])) before

theorem writtenOver_of_written {outDir p : List String} {files : Table String}
    (wrote : ∃ e ∈ files, p = outDir ++ Disk.segmentsOf e.1) (before other : Option String) :
    writtenOver outDir files p before = writtenOver outDir files p other := by
  induction files generalizing before other with
  | nil => simp at wrote
  | cons e rest ih =>
    simp only [writtenOver, List.foldl_cons]
    by_cases here : p = outDir ++ Disk.segmentsOf e.1
    · rw [if_pos here, if_pos here]
    · rw [if_neg here, if_neg here]
      obtain ⟨e', member, same⟩ := wrote
      rcases List.mem_cons.mp member with rfl | later
      · exact absurd same here
      · exact ih ⟨e', later, same⟩ _ _

/-! ## Writing -/

theorem exec_writeOne (root : String) (outDir : List String) {written r : List (List String)}
    {entry : String × String} {w w' : Workspace}
    (ran : Run.exec (writeOne root outDir written entry) w = (.ok r, w')) :
    w.disk.writeFile (outDir ++ Disk.segmentsOf entry.1) entry.2 = .ok w'.disk ∧
      r = written ++ [outDir ++ Disk.segmentsOf entry.1] := by
  unfold writeOne at ran
  rw [exec_bind, exec_change] at ran
  cases wrote : w.disk.writeFile (outDir ++ Disk.segmentsOf entry.1) entry.2 with
  | error e =>
    rw [wrote] at ran
    cases ran
  | ok d =>
    rw [wrote] at ran
    dsimp only at ran
    rw [exec_bind, exec_note] at ran
    dsimp only at ran
    rw [exec_pure] at ran
    cases ran
    exact ⟨rfl, rfl⟩

/-- Writing the files of a table in order: the paths come back in order, the tree stays formed,
and each path holds the last content written there. -/
theorem exec_foldlM_writeOne (root : String) (outDir : List String) {files : Table String}
    {written r : List (List String)} {w w' : Workspace}
    (formed : w.disk.Formed) (plain : ∀ e ∈ files, ".." ∉ outDir ++ Disk.segmentsOf e.1)
    (ran : Run.exec (files.foldlM (writeOne root outDir) written) w = (.ok r, w')) :
    r = written ++ files.map (fun e => outDir ++ Disk.segmentsOf e.1) ∧ w'.disk.Formed ∧
      ∀ p, w'.disk.contentAt p = writtenOver outDir files p (w.disk.contentAt p) := by
  induction files generalizing written w with
  | nil =>
    rw [List.foldlM_nil, exec_pure] at ran
    cases ran
    exact ⟨by simp, formed, fun p => rfl⟩
  | cons entry rest ih =>
    rw [List.foldlM_cons, exec_bind] at ran
    rcases first : Run.exec (writeOne root outDir written entry) w with ⟨_ | once, w1⟩
    · rw [first] at ran
      cases ran
    · rw [first] at ran
      obtain ⟨wrote, rfl⟩ := exec_writeOne root outDir first
      obtain ⟨formed1, contents1⟩ := writeFile_contents formed (plain entry (by simp)) wrote
      obtain ⟨result, formed', contents'⟩ :=
        ih formed1 (fun e member => plain e (by simp [member])) ran
      refine ⟨by simp [result], formed', fun p => ?_⟩
      rw [contents', contents1]
      rfl

/-! ## Removing stale files -/

/-- What removing one candidate does to the tree: the file it leads to goes, unless the run
produced the candidate's path as it reads. -/
def prune (outDir : List String) (produced : List (List String)) (d : Disk)
    (path : List String) : Disk :=
  match d.place? path with
  | some place =>
    if d.isFile place && !produced.contains (path.drop outDir.length) then d.remove place else d
  | none => d

theorem exec_removeIfStale (root : String) (outDir : List String) (produced : List (List String))
    (path : List String) (w : Workspace) :
    ∃ w', Run.exec (removeIfStale root outDir produced path) w = (.ok (), w') ∧
      w'.disk = prune outDir produced w.disk path := by
  unfold removeIfStale prune
  rw [exec_bind, exec_disk]
  dsimp only
  cases w.disk.place? path with
  | none => exact ⟨w, rfl, rfl⟩
  | some place =>
    dsimp only
    by_cases stale : (w.disk.isFile place && !produced.contains (path.drop outDir.length)) = true
    · rw [if_pos stale, if_pos stale, exec_bind, exec_note]
      exact ⟨_, rfl, rfl⟩
    · rw [if_neg stale, if_neg stale]
      exact ⟨w, rfl, rfl⟩

theorem exec_forM_removeIfStale (root : String) (outDir : List String)
    (produced : List (List String)) (cs : List (List String)) (w : Workspace) :
    ∃ w', Run.exec (cs.forM (removeIfStale root outDir produced)) w = (.ok (), w') ∧
      w'.disk = cs.foldl (prune outDir produced) w.disk := by
  induction cs generalizing w with
  | nil => exact ⟨w, rfl, rfl⟩
  | cons c rest ih =>
    obtain ⟨w1, ran1, disk1⟩ := exec_removeIfStale root outDir produced c w
    obtain ⟨w2, ran2, disk2⟩ := ih w1
    refine ⟨w2, ?_, ?_⟩
    · show Run.exec (removeIfStale root outDir produced c >>= fun _ => rest.forM _) w = _
      rw [exec_bind, ran1]
      exact ran2
    · rw [disk2, disk1]
      rfl

/-- Removing a candidate with no `..` segment empties its path when the run did not produce it,
and changes nothing else. -/
theorem prune_contents (outDir : List String) (produced : List (List String)) {d : Disk}
    (formed : d.Formed) {c : List String} (plain : ".." ∉ c) :
    (prune outDir produced d c).Formed ∧ ∀ p, (prune outDir produced d c).contentAt p =
      if p = c ∧ produced.contains (c.drop outDir.length) = false then none
      else d.contentAt p := by
  unfold prune
  cases placed : d.place? c with
  | none =>
    refine ⟨formed, fun p => ?_⟩
    dsimp only
    split
    · rename_i here
      rw [here.1]
      cases found : d.contentAt c with
      | none => rfl
      | some x =>
        rw [place?_of_found formed plain (contentAt_eq_some.mp found)] at placed
        cases placed
    · rfl
  | some place =>
    obtain rfl := place?_plain plain placed
    dsimp only
    cases listed : produced.contains (place.drop outDir.length)
    · cases file : d.isFile place
      · refine ⟨formed, fun p => ?_⟩
        simp only [Bool.false_and, Bool.false_eq_true, if_false, and_true]
        split
        · rename_i same
          subst same
          cases found : d.contentAt p with
          | none => rfl
          | some x => simpa [file] using isFile_iff.mpr ⟨x, found⟩
        · rfl
      · obtain ⟨x, found⟩ := isFile_iff.mp file
        have nonempty : place ≠ [] := by
          rintro rfl
          simp [contentAt_eq_some] at found
        simp only [Bool.not_false, Bool.and_self, if_true, and_true]
        refine ⟨formed.remove (by simp [contentAt_eq_some.mp found]), fun p => ?_⟩
        rw [contentAt_remove]
        by_cases same : p = place
        · simp [same, nonempty]
        · simp [same]
    · simp only [Bool.not_true, Bool.and_false, Bool.false_eq_true, if_false, Bool.true_eq_false,
        and_false]
      refine ⟨formed, fun p => ?_⟩
      simp

/-- Removing candidates with no `..` segment empties exactly those the run did not produce. -/
theorem foldl_prune_contents (outDir : List String) (produced : List (List String))
    {cs : List (List String)} {d : Disk} (formed : d.Formed) (plain : ∀ c ∈ cs, ".." ∉ c) :
    (cs.foldl (prune outDir produced) d).Formed ∧
      ∀ p, (cs.foldl (prune outDir produced) d).contentAt p =
        if p ∈ cs ∧ produced.contains (p.drop outDir.length) = false then none
        else d.contentAt p := by
  induction cs generalizing d with
  | nil => exact ⟨formed, fun p => by simp⟩
  | cons c rest ih =>
    obtain ⟨formed1, contents1⟩ :=
      prune_contents outDir produced formed (plain c (by simp))
    obtain ⟨formed', contents'⟩ := ih formed1 (fun c' member => plain c' (by simp [member]))
    refine ⟨formed', fun p => ?_⟩
    rw [List.foldl_cons, contents', contents1]
    by_cases same : p = c
    · subst same
      by_cases listed : produced.contains (p.drop outDir.length) = false
      · simp only [listed, List.mem_cons_self, and_self, if_true, ite_self]
      · simp only [listed, Bool.true_eq_false, and_false, if_false]
    · simp only [same, false_and, if_false, List.mem_cons, false_or]

/-! ## The candidates -/

/-- Whether the file at `p` is one a run removes when it did not write it: a `.ts` file directly
in a generated directory under `outDir`, or an optional file named relative to `outDir`. -/
def Stale (w : Writer) (outDir p : List String) : Prop :=
  (∃ dir ∈ generatedDirs, ∃ name, Text.endsWith name ".ts" = true ∧ p = outDir ++ [dir, name]) ∨
    ∃ name ∈ w.optionalFiles, Text.startsWith name "/" = false ∧
      p = outDir ++ Disk.segmentsOf name

theorem plain_generatedFolder {outDir : List String} (plainDir : ".." ∉ outDir) {dir : String}
    (generated : dir ∈ generatedDirs) : ".." ∉ outDir ++ [dir] := by
  simp only [List.mem_append, List.mem_singleton, not_or]
  refine ⟨plainDir, ?_⟩
  simp only [generatedDirs, List.mem_cons, List.not_mem_nil, or_false] at generated
  rcases generated with rfl | rfl <;> decide

theorem mem_sourcesIn {d : Disk} {folder : List String} {name : String}
    (member : name ∈ sourcesIn d folder) : Text.endsWith name ".ts" = true ∧
      ∃ place, d.place? folder = some place ∧ name ∈ (d.children place).map (·.1) := by
  unfold sourcesIn at member
  split at member
  · rename_i place placed
    split at member
    · have listed := List.mem_filter.mp (List.mem_mergeSort.mp member)
      exact ⟨listed.2, place, placed, listed.1⟩
    · cases member
  · cases member

theorem mem_sourcesIn_of_found {d : Disk} (formed : d.Formed) {folder : List String}
    {name : String} {e : Entry} (plain : ".." ∉ folder) (found : d.find? (folder ++ [name]) = some e)
    (source : Text.endsWith name ".ts" = true) : name ∈ sourcesIn d folder := by
  have dir : d.find? folder = some .dir := by simpa using formed.parent found
  unfold sourcesIn
  rw [place?_of_found formed plain dir]
  dsimp only
  rw [if_pos (isDir_iff.mpr dir)]
  exact List.mem_mergeSort.mpr (List.mem_filter.mpr ⟨mem_children_of_found found, source⟩)

theorem mem_candidates {w : Writer} {d : Disk} {outDir c : List String}
    (member : c ∈ w.candidates d outDir) :
    (∃ dir ∈ generatedDirs, ∃ name ∈ sourcesIn d (outDir ++ [dir]), c = outDir ++ [dir, name]) ∨
      ∃ name ∈ w.optionalFiles, Text.startsWith name "/" = false ∧
        c = outDir ++ Disk.segmentsOf name := by
  unfold candidates at member
  rcases List.mem_append.mp member with inDirs | optional
  · obtain ⟨dir, generated, listed⟩ := List.mem_flatMap.mp inDirs
    obtain ⟨name, source, rfl⟩ := List.mem_map.mp listed
    exact .inl ⟨dir, generated, name, source, rfl⟩
  · obtain ⟨name, kept, rfl⟩ := List.mem_map.mp optional
    obtain ⟨named, relative⟩ := List.mem_filter.mp kept
    exact .inr ⟨name, named, by simpa using relative, rfl⟩

/-- A file of a formed tree is a candidate for removal exactly when it is stale. -/
theorem mem_candidates_iff {w : Writer} {d : Disk} (formed : d.Formed) {outDir p : List String}
    (plainDir : ".." ∉ outDir) {x : String} (file : d.contentAt p = some x) :
    p ∈ w.candidates d outDir ↔ w.Stale outDir p := by
  constructor
  · intro member
    rcases mem_candidates member with ⟨dir, generated, name, source, rfl⟩ | optional
    · exact .inl ⟨dir, generated, name, (mem_sourcesIn source).1, rfl⟩
    · exact .inr optional
  · rintro (⟨dir, generated, name, source, rfl⟩ | ⟨name, named, relative, rfl⟩)
    · have found : d.find? (outDir ++ [dir] ++ [name]) = some (.file x) := by
        simpa using contentAt_eq_some.mp file
      refine List.mem_append_left _ (List.mem_flatMap.mpr ⟨dir, generated, ?_⟩)
      exact List.mem_map.mpr ⟨name, mem_sourcesIn_of_found formed
        (plain_generatedFolder plainDir generated) found source, rfl⟩
    · refine List.mem_append_right _ (List.mem_map.mpr ⟨name, ?_, rfl⟩)
      exact List.mem_filter.mpr ⟨named, by simp [relative]⟩

theorem plain_of_mem_candidates {w : Writer} {d : Disk} (formed : d.Formed)
    {outDir c : List String} (plainDir : ".." ∉ outDir)
    (plainOptional : ∀ name ∈ w.optionalFiles, ".." ∉ Disk.segmentsOf name)
    (member : c ∈ w.candidates d outDir) : ".." ∉ c := by
  rcases mem_candidates member with ⟨dir, generated, name, source, rfl⟩ | ⟨name, named, -, rfl⟩
  · obtain ⟨-, place, placed, listed⟩ := mem_sourcesIn source
    obtain rfl := place?_plain (plain_generatedFolder plainDir generated) placed
    simpa using plain_of_mem_children formed listed
  · simp only [List.mem_append, not_or]
    exact ⟨plainDir, plainOptional name named⟩

theorem prefix_of_mem_candidates {w : Writer} {d : Disk} {outDir c : List String}
    (member : c ∈ w.candidates d outDir) : ∃ rest, c = outDir ++ rest := by
  rcases mem_candidates member with ⟨dir, -, name, -, rfl⟩ | ⟨name, -, -, rfl⟩
  · exact ⟨[dir, name], rfl⟩
  · exact ⟨_, rfl⟩

/-- A candidate was produced exactly when a key names its path. -/
theorem contains_produced_iff {outDir rest : List String} {files : Table String} :
    (files.map fun (rel, _) => Disk.segmentsOf rel).contains
        ((outDir ++ rest).drop outDir.length) = true ↔
      ∃ e ∈ files, outDir ++ rest = outDir ++ Disk.segmentsOf e.1 := by
  simp [eq_comm]

/-! ## The whole run -/

open Classical in
/-- Writing a table of files under `outDir` into a tree a file system can hold, when no key,
optional file or `outDir` has a `..` segment and every write succeeds: the paths returned are
the keys under `outDir`, in order, and each path holds the last content written there, or else
what it held before, unless stale files are removed and it is stale. So a file the run did not
write is removed exactly when it is stale, and no file appears that the run did not write. -/
theorem writeAll_final_tree (w : Writer) (root : String) (outDir : List String)
    (files : Table String) (start : Workspace) {written : List (List String)} {ws : Workspace}
    (formed : start.disk.Formed) (plainDir : ".." ∉ outDir)
    (plainKeys : ∀ e ∈ files, ".." ∉ Disk.segmentsOf e.1)
    (plainOptional : ∀ name ∈ w.optionalFiles, ".." ∉ Disk.segmentsOf name)
    (ran : Run.exec (w.writeAll root outDir files) start = (.ok written, ws)) :
    written = files.map (fun e => outDir ++ Disk.segmentsOf e.1) ∧
      ∀ p, ws.disk.contentAt p = writtenOver outDir files p
        (if w.removeStale = true ∧ w.Stale outDir p then none else start.disk.contentAt p) := by
  have plainPaths : ∀ e ∈ files, ".." ∉ outDir ++ Disk.segmentsOf e.1 := by
    intro e member
    simp only [List.mem_append, not_or]
    exact ⟨plainDir, plainKeys e member⟩
  unfold writeAll at ran
  rw [exec_bind] at ran
  rcases writes : Run.exec (files.foldlM (writeOne root outDir) []) start with ⟨_ | once, w1⟩
  · rw [writes] at ran
    cases ran
  rw [writes] at ran
  dsimp only at ran
  obtain ⟨result, formed1, contents1⟩ := exec_foldlM_writeOne root outDir formed plainPaths writes
  rw [List.nil_append] at result
  by_cases removing : w.removeStale = true
  · rw [if_pos removing, exec_bind, exec_disk] at ran
    dsimp only at ran
    obtain ⟨w2, ran2, disk2⟩ := exec_forM_removeIfStale root outDir
      (files.map fun (rel, _) => Disk.segmentsOf rel) (w.candidates w1.disk outDir) w1
    rw [exec_bind, ran2] at ran
    dsimp only at ran
    rw [exec_pure] at ran
    cases ran
    refine ⟨result, fun p => ?_⟩
    obtain ⟨-, contents2⟩ := foldl_prune_contents outDir
      (files.map fun (rel, _) => Disk.segmentsOf rel) formed1
      (fun c member => plain_of_mem_candidates formed1 plainDir plainOptional member)
    rw [disk2, contents2, contents1]
    by_cases wrote : ∃ e ∈ files, p = outDir ++ Disk.segmentsOf e.1
    · have kept : ¬(p ∈ w.candidates w1.disk outDir ∧
          (files.map fun (rel, _) => Disk.segmentsOf rel).contains (p.drop outDir.length) =
            false) := by
        rintro ⟨member, fresh⟩
        obtain ⟨rest, rfl⟩ := prefix_of_mem_candidates member
        rw [← Bool.not_eq_true, contains_produced_iff] at fresh
        exact fresh wrote
      rw [if_neg kept]
      exact writtenOver_of_written wrote _ _
    · have unwritten : ∀ e ∈ files, p ≠ outDir ++ Disk.segmentsOf e.1 :=
        fun e member same => wrote ⟨e, member, same⟩
      rw [writtenOver_of_not_written unwritten, writtenOver_of_not_written unwritten]
      cases before : start.disk.contentAt p with
      | none => simp
      | some x =>
        have file : w1.disk.contentAt p = some x := by
          rw [contents1, writtenOver_of_not_written unwritten, before]
        by_cases stale : w.Stale outDir p
        · have member := (mem_candidates_iff formed1 plainDir file).mpr stale
          have fresh : (files.map fun (rel, _) => Disk.segmentsOf rel).contains
              (p.drop outDir.length) = false := by
            obtain ⟨rest, rfl⟩ := prefix_of_mem_candidates member
            rw [← Bool.not_eq_true, contains_produced_iff]
            exact wrote
          rw [if_pos ⟨member, fresh⟩, if_pos ⟨removing, stale⟩]
        · have outside : p ∉ w.candidates w1.disk outDir :=
            fun member => stale ((mem_candidates_iff formed1 plainDir file).mp member)
          rw [if_neg fun removed => outside removed.1, if_neg fun removed => stale removed.2]
  · rw [if_neg removing, exec_pure] at ran
    cases ran
    refine ⟨result, fun p => ?_⟩
    rw [contents1]
    simp [removing]

/-- A tree a previous run left: a model no longer generated, the model index and a file of the
user's. -/
def refreshedDisk : Disk :=
  ⟨[(["models"], .dir), (["models", "old.ts"], .file "old"), (["models.ts"], .file "index"),
    (["notes.txt"], .file "notes")]⟩

/-- A writer that removes stale files, with the model index optional. -/
def refreshWriter : Writer := ⟨true, ["models.ts"]⟩

/-- The files of the next run: one file named twice, the second time through `.`. -/
def refreshFiles : Table String := [("api.ts", "api 1"), ("./api.ts", "api 2")]

open Classical in
theorem writeAll_final_tree_refresh :
    ∃ written ws, refreshedDisk.Formed ∧
      Run.exec (refreshWriter.writeAll "" [] refreshFiles) ⟨refreshedDisk, #[]⟩ =
        (.ok written, ws) ∧
      (written = refreshFiles.map (fun e => [] ++ Disk.segmentsOf e.1) ∧
        ∀ p, ws.disk.contentAt p = writtenOver [] refreshFiles p
          (if refreshWriter.removeStale = true ∧ refreshWriter.Stale [] p then none
            else refreshedDisk.contentAt p)) := by
  have formed : refreshedDisk.Formed := formed_of_entries _ (by decide +kernel)
  have finished : (Run.exec (refreshWriter.writeAll "" [] refreshFiles)
      ⟨refreshedDisk, #[]⟩).1.toOption = some [["api.ts"], ["api.ts"]] := by
    decide +kernel
  rcases ran : Run.exec (refreshWriter.writeAll "" [] refreshFiles) ⟨refreshedDisk, #[]⟩ with
    ⟨_ | written, ws⟩
  · rw [ran] at finished
    cases finished
  · exact ⟨written, ws, formed, rfl, writeAll_final_tree refreshWriter "" [] refreshFiles
      ⟨refreshedDisk, #[]⟩ formed (by simp) (by decide +kernel) (by decide +kernel) ran⟩

/-- An optional file named through a parent directory, `models/../x.ts`, is the file `x.ts`
the run has just written, and the removal of stale files deletes it: the candidate's path as
it reads was not produced. -/
theorem writeAll_removes_file_written_through_parent :
    ∃ ws, Run.exec ((⟨true, ["models/../x.ts"]⟩ : Writer).writeAll "" [] [("x.ts", "new")])
        ⟨⟨[(["models"], .dir)]⟩, #[]⟩ = (.ok [["x.ts"]], ws) ∧
      ws.disk.contentAt ["x.ts"] = none := by
  have checked : (match Run.exec ((⟨true, ["models/../x.ts"]⟩ : Writer).writeAll "" []
      [("x.ts", "new")]) ⟨⟨[(["models"], .dir)]⟩, #[]⟩ with
      | (.ok written, ws) => decide (written = [["x.ts"]] ∧ ws.disk.contentAt ["x.ts"] = none)
      | (.error _, _) => false) = true := by
    decide +kernel
  rcases ran : Run.exec ((⟨true, ["models/../x.ts"]⟩ : Writer).writeAll "" [] [("x.ts", "new")])
      ⟨⟨[(["models"], .dir)]⟩, #[]⟩ with ⟨_ | written, ws⟩
  · rw [ran] at checked
    cases checked
  · rw [ran] at checked
    obtain ⟨rfl, gone⟩ := of_decide_eq_true checked
    exact ⟨ws, rfl, gone⟩

end Writer

end ClientGen
