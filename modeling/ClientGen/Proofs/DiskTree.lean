import ClientGen.Output.Disk
import ClientGen.Proofs.Loops
import Mathlib.Data.List.Infix

/-!
# Trees a file system can hold

A tree is formed when the parent of every entry is a directory and no entry is named `..`:
the trees a real file system holds. Following a path through a formed tree leads to a path
whose parent is a directory (`follow_formed`), so making directories and writing files keep a
tree formed. Making directories never touches a file (`makeDirs_contents`), and writing a file
changes the content at its own path and nowhere else (`writeFile_contents`).

A path with no `..` segment is followed as it reads: it leads to itself or stops at a missing
directory or at a file (`follow_plain`), and through a formed tree with directories above it,
it leads to itself (`follow_of_dirs`).
-/
namespace ClientGen

/-- What an entry holds as a file; a directory holds no content. -/
def Entry.content : Entry → Option String
  | .file c => some c
  | .dir => none

namespace Disk

/-- The content of the file at a path, when a file is there. -/
def contentAt (d : Disk) (p : List String) : Option String :=
  (d.find? p).bind Entry.content

/-! ## Lookups after a change -/

@[simp] theorem find?_nil (d : Disk) : d.find? [] = some .dir := rfl

theorem find?_of_ne_nil (d : Disk) {p : List String} (nonempty : p ≠ []) :
    d.find? p = (d.entries.find? (·.1 = p)).map (·.2) := by
  simp [find?, nonempty]

/-- Changing entries in place finds the same entry, changed. -/
theorem find?_map_keeping {l : List (List String × Entry)}
    {g : List String × Entry → List String × Entry} (keeps : ∀ x, (g x).1 = x.1)
    (p : List String) : (l.map g).find? (·.1 = p) = (l.find? (·.1 = p)).map g := by
  rw [List.find?_map]
  congr 2
  funext x
  simp [keeps]

/-- Setting a path changes what it holds and nothing else; the root stays a directory. -/
theorem find?_set (d : Disk) (q p : List String) (e : Entry) :
    (d.set q e).find? p = if p = q ∧ p ≠ [] then some e else d.find? p := by
  by_cases root : p = []
  · subst root
    simp
  rw [find?_of_ne_nil _ root, find?_of_ne_nil _ root]
  unfold set
  split
  · rename_i present
    rw [find?_map_keeping (fun x => by dsimp only; split <;> rfl), Option.map_map]
    cases found : d.entries.find? (·.1 = p) with
    | none =>
      have : p ≠ q := by
        rintro rfl
        obtain ⟨old, member⟩ : ∃ old, (p, old) ∈ d.entries := by simpa using present
        exact absurd (by simp) (List.find?_eq_none.mp found _ member)
      simp [this]
    | some x =>
      have : x.1 = p := by simpa using List.find?_some found
      subst this
      by_cases same : x.1 = q
      · rw [same] at root
        simp [same, root]
      · simp [same]
  · rename_i absent
    rw [List.find?_append]
    by_cases same : p = q
    · subst same
      have : d.entries.find? (·.1 = p) = none := by
        rw [List.find?_eq_none]
        intro x member same
        exact absent (List.any_eq_true.mpr ⟨x, member, same⟩)
      simp [this, root]
    · simp [same, Ne.symm same]

/-- Removing a path empties it and nothing else; the root stays a directory. -/
theorem find?_remove (d : Disk) (q p : List String) :
    (d.remove q).find? p = if p = q ∧ p ≠ [] then none else d.find? p := by
  by_cases root : p = []
  · subst root
    simp
  rw [find?_of_ne_nil _ root, find?_of_ne_nil _ root]
  unfold remove
  rw [List.find?_filter]
  by_cases same : p = q
  · subst same
    simp [root]
  · simp only [same, false_and, if_false]
    congr 2
    funext x
    by_cases hx : x.1 = p
    · simp [hx, same]
    · simp [hx]

/-- Every entry of the tree is found at its path. -/
theorem exists_find?_of_mem {d : Disk} {p : List String} {e : Entry}
    (member : (p, e) ∈ d.entries) : ∃ e', d.find? p = some e' := by
  by_cases root : p = []
  · subst root
    exact ⟨.dir, rfl⟩
  rw [find?_of_ne_nil _ root]
  have present : (d.entries.find? (·.1 = p)).isSome :=
    List.find?_isSome.mpr ⟨(p, e), member, by simp⟩
  obtain ⟨entry, located⟩ := Option.isSome_iff_exists.mp present
  exact ⟨entry.2, by rw [located]; rfl⟩

theorem contentAt_eq_some {d : Disk} {p : List String} {x : String} :
    d.contentAt p = some x ↔ d.find? p = some (.file x) := by
  unfold contentAt
  cases d.find? p with
  | none => simp
  | some e => cases e <;> simp [Entry.content]

theorem isFile_iff {d : Disk} {p : List String} :
    d.isFile p = true ↔ ∃ x, d.contentAt p = some x := by
  simp only [contentAt_eq_some, isFile]
  cases d.find? p with
  | none => simp
  | some e => cases e <;> simp

theorem isDir_iff {d : Disk} {p : List String} : d.isDir p = true ↔ d.find? p = some .dir := by
  unfold isDir
  cases d.find? p with
  | none => simp
  | some e => cases e <;> simp

theorem contentAt_set (d : Disk) (q p : List String) (e : Entry) :
    (d.set q e).contentAt p = if p = q ∧ p ≠ [] then e.content else d.contentAt p := by
  unfold contentAt
  rw [find?_set]
  split <;> rfl

theorem contentAt_remove (d : Disk) (q p : List String) :
    (d.remove q).contentAt p = if p = q ∧ p ≠ [] then none else d.contentAt p := by
  unfold contentAt
  rw [find?_remove]
  split <;> rfl

/-! ## Formed trees -/

/-- A tree a file system can hold: the parent of every entry is a directory, and no entry is
named `..`. -/
structure Formed (d : Disk) : Prop where
  parent : ∀ {p e}, d.find? p = some e → d.find? p.dropLast = some .dir
  plain : ∀ {p e}, d.find? p = some e → ".." ∉ p

/-- A tree is formed when each entry has a directory above it and no `..` segment: the check
a concrete tree is put to. -/
theorem formed_of_entries (d : Disk)
    (checked : d.entries.all (fun entry => d.isDir entry.1.dropLast && !entry.1.contains "..")) :
    d.Formed := by
  have checkedAt : ∀ {p e}, d.find? p = some e → p ≠ [] →
      d.find? p.dropLast = some .dir ∧ ".." ∉ p := by
    intro p e found root
    rw [find?_of_ne_nil _ root] at found
    obtain ⟨entry, located, -⟩ := Option.map_eq_some_iff.mp found
    have path : entry.1 = p := by simpa using List.find?_some located
    have passed := List.all_eq_true.mp checked entry (List.mem_of_find?_eq_some located)
    simp only [Bool.and_eq_true, Bool.not_eq_true', path] at passed
    exact ⟨isDir_iff.mp passed.1, by simpa using passed.2⟩
  refine ⟨fun {p e} found => ?_, fun {p e} found => ?_⟩
  · by_cases root : p = []
    · subst root
      rfl
    · exact (checkedAt found root).1
  · by_cases root : p = []
    · subst root
      simp
    · exact (checkedAt found root).2

variable {d : Disk}

/-- Above a directory of a formed tree stand only directories. -/
theorem Formed.dir_of_prefix (formed : d.Formed) {p q : List String}
    (dir : d.find? p = some .dir) (before : q <+: p) : d.find? q = some .dir := by
  obtain ⟨rest, rfl⟩ := before
  induction rest using List.reverseRecOn with
  | nil => simpa using dir
  | append_singleton rest s ih =>
    apply ih
    have above := formed.parent dir
    rwa [← List.append_assoc, List.dropLast_concat] at above

/-- Setting a path whose parent is a directory keeps a tree formed, unless a file replaces a
directory. -/
theorem Formed.set (formed : d.Formed) {q : List String} {e : Entry}
    (parent : d.find? q.dropLast = some .dir) (plain : ".." ∉ q)
    (keepsDirs : e = .dir ∨ d.find? q ≠ some .dir) : (d.set q e).Formed where
  parent := by
    intro p e' found
    rw [find?_set] at found
    rw [find?_set]
    split at found
    · rename_i same
      obtain ⟨rfl, nonempty⟩ := same
      have shorter : p.dropLast ≠ p := by
        intro eq
        have := congrArg List.length eq
        simp only [List.length_dropLast] at this
        have := List.length_pos_iff.mpr nonempty
        omega
      simp [shorter, parent]
    · split
      · rename_i above
        obtain ⟨rfl, nonempty⟩ := above
        rcases keepsDirs with rfl | notDir
        · rfl
        · exact absurd (formed.parent found) notDir
      · exact formed.parent found
  plain := by
    intro p e' found
    rw [find?_set] at found
    split at found
    · rename_i same
      rw [same.1]
      exact plain
    · exact formed.plain found

/-- Removing what is not a directory keeps a tree formed. -/
theorem Formed.remove (formed : d.Formed) {q : List String} (notDir : d.find? q ≠ some .dir) :
    (d.remove q).Formed where
  parent := by
    intro p e' found
    rw [find?_remove] at found
    rw [find?_remove]
    split at found
    · cases found
    · split
      · rename_i above
        exact absurd (above.1 ▸ formed.parent found) notDir
      · exact formed.parent found
  plain := by
    intro p e' found
    rw [find?_remove] at found
    split at found
    · cases found
    · exact formed.plain found

/-! ## Following paths -/

/-- From a directory of a formed tree, a path leads into the tree only to a path whose parent
is a directory and that has no `..` segment. -/
theorem follow_formed (formed : d.Formed) {here q : List String} (p : List String)
    (dir : d.find? here = some .dir) (leads : d.follow here p = .within q) :
    d.find? q.dropLast = some .dir ∧ ".." ∉ q := by
  induction p generalizing here with
  | nil =>
    cases leads
    exact ⟨formed.parent dir, formed.plain dir⟩
  | cons name rest ih =>
    unfold follow at leads
    split at leads
    · split at leads
      · cases leads
      · exact ih (formed.parent dir) leads
    · rename_i notUp
      split at leads
      · cases leads
        rw [List.dropLast_concat]
        refine ⟨dir, ?_⟩
        simp [formed.plain dir, Ne.symm notUp]
      · split at leads
        · rename_i found
          exact ih found leads
        · cases leads
        · cases leads

/-- A path with no `..` segment leads to itself, or stops on its way. -/
theorem follow_plain (here p : List String) (plain : ".." ∉ p) :
    d.follow here p = .within (here ++ p) ∨ d.follow here p = .missing ∨
      d.follow here p = .throughFile := by
  induction p generalizing here with
  | nil => simp [follow]
  | cons name rest ih =>
    obtain ⟨notUp, restPlain⟩ := List.ne_and_not_mem_of_not_mem_cons plain
    unfold follow
    rw [if_neg (Ne.symm notUp)]
    split
    · rename_i last
      simp [List.isEmpty_iff.mp last]
    · split
      · simpa using ih (here ++ [name]) restPlain
      · simp
      · simp

/-- Through a formed tree, a path with no `..` segment and a directory above its end leads to
itself. -/
theorem follow_of_dirs (formed : d.Formed) {here p : List String} (plain : ".." ∉ p)
    (dirs : d.find? (here ++ p).dropLast = some .dir) :
    d.follow here p = .within (here ++ p) := by
  induction p generalizing here with
  | nil => simp [follow]
  | cons name rest ih =>
    obtain ⟨notUp, restPlain⟩ := List.ne_and_not_mem_of_not_mem_cons plain
    unfold follow
    rw [if_neg (Ne.symm notUp)]
    split
    · rename_i last
      simp [List.isEmpty_iff.mp last]
    · rename_i more
      have next : d.find? (here ++ [name]) = some .dir := by
        refine formed.dir_of_prefix dirs ⟨rest.dropLast, ?_⟩
        rw [← List.dropLast_append_of_ne_nil (by simpa using more)]
        simp
      rw [next]
      dsimp only
      rw [ih restPlain (by simpa using dirs)]
      simp

theorem place?_plain {p q : List String} (plain : ".." ∉ p) (leads : d.place? p = some q) :
    q = p := by
  unfold place? at leads
  rcases follow_plain [] p plain with found | found | found <;> rw [found] at leads
  · simpa using leads.symm
  · cases leads
  · cases leads

/-- What stands in a formed tree at a path with no `..` segment is reached by following it. -/
theorem place?_of_found (formed : d.Formed) {p : List String} {e : Entry} (plain : ".." ∉ p)
    (found : d.find? p = some e) : d.place? p = some p := by
  unfold place?
  rw [follow_of_dirs formed plain (by simpa using formed.parent found)]
  rfl

theorem mem_children_of_found {folder : List String} {name : String} {e : Entry}
    (found : d.find? (folder ++ [name]) = some e) : name ∈ (d.children folder).map (·.1) := by
  rw [find?_of_ne_nil _ (by simp)] at found
  obtain ⟨entry, located, rfl⟩ := Option.map_eq_some_iff.mp found
  have path : entry.1 = folder ++ [name] := by simpa using List.find?_some located
  have member := List.mem_of_find?_eq_some located
  refine List.mem_map.mpr ⟨(name, entry.2), List.mem_filterMap.mpr ⟨entry, member, ?_⟩, rfl⟩
  obtain ⟨p, e'⟩ := entry
  simp only at path
  subst path
  simp

/-- No child of a directory of a formed tree is named `..`. -/
theorem plain_of_mem_children (formed : d.Formed) {folder : List String} {name : String}
    (member : name ∈ (d.children folder).map (·.1)) : ".." ∉ folder ++ [name] := by
  obtain ⟨⟨n, e⟩, listed, rfl⟩ := List.mem_map.mp member
  obtain ⟨⟨p, e'⟩, present, made⟩ := List.mem_filterMap.mp listed
  simp only at made
  split at made
  · rename_i before
    obtain ⟨rest, rfl⟩ := List.isPrefixOf_iff_prefix.mp before
    split at made
    · rename_i only
      cases made
      simp only [List.drop_left] at only
      subst only
      obtain ⟨_, found⟩ := exists_find?_of_mem present
      exact formed.plain found
    · cases made
  · cases made

/-! ## Making directories and writing files -/

theorem mkdirOnce_made (formed : d.Formed) {p : List String} {d' : Disk}
    (made : d.mkdirOnce p = .made d') : d'.Formed ∧ d'.contentAt = d.contentAt := by
  unfold mkdirOnce at made
  split at made
  · rename_i q leads
    split at made
    · cases made
      exact ⟨formed, rfl⟩
    · cases made
    · rename_i absent
      cases made
      obtain ⟨parent, plain⟩ := follow_formed formed p rfl leads
      refine ⟨formed.set parent plain (.inl rfl), ?_⟩
      funext r
      rw [contentAt_set]
      split
      · rename_i same
        rw [same.1]
        simp [contentAt, absent, Entry.content]
      · rfl
  · cases made
    exact ⟨formed, rfl⟩
  · cases made
  · cases made

theorem mkdirOnce_plain {p : List String} (plain : ".." ∉ p) {d' : Disk}
    (made : d.mkdirOnce p = .made d') : d'.find? p = some .dir := by
  unfold mkdirOnce at made
  rcases follow_plain [] p plain with leads | leads | leads <;> rw [leads] at made
  · simp only [List.nil_append] at made
    split at made
    · cases made
      assumption
    · cases made
    · cases made
      rw [find?_set]
      split
      · rfl
      · rename_i notHere
        have : p = [] := by simpa using notHere
        subst this
        rfl
  · cases made
  · cases made

/-- Making directories keeps a tree formed and leaves every file as it was. -/
theorem makeDirs_contents (formed : d.Formed) (p : List String) {d' : Disk}
    (made : d.makeDirs p = .ok d') : d'.Formed ∧ d'.contentAt = d.contentAt := by
  fun_induction makeDirs d p generalizing d' with
  | case1 =>
    cases made
    exact ⟨formed, rfl⟩
  | case2 _ _ _ once =>
    cases made
    exact mkdirOnce_made formed once
  | case3 => cases made
  | case4 => cases made
  | case5 _ _ _ ih =>
    obtain ⟨above, madeAbove, retried⟩ := except_bind_ok made
    obtain ⟨formedAbove, sameAbove⟩ := ih madeAbove
    split at retried
    · rename_i once
      cases retried
      obtain ⟨formed', same⟩ := mkdirOnce_made formedAbove once
      exact ⟨formed', same.trans sameAbove⟩
    · cases retried
    · cases retried

/-- Making the directories of a path with no `..` segment leaves a directory there. -/
theorem makeDirs_plain (p : List String) (plain : ".." ∉ p) {d' : Disk}
    (made : d.makeDirs p = .ok d') : d'.find? p = some .dir := by
  unfold makeDirs at made
  split at made
  · cases made
    rfl
  · split at made
    · cases made
      exact mkdirOnce_plain plain ‹_›
    · cases made
    · cases made
    · obtain ⟨above, -, retried⟩ := except_bind_ok made
      split at retried
      · cases retried
        exact mkdirOnce_plain plain ‹_›
      · cases retried
      · cases retried

/-- Writing a file at a path with no `..` segment keeps a tree formed and puts the content at
that path and nowhere else. -/
theorem writeFile_contents (formed : d.Formed) {p : List String} (plain : ".." ∉ p)
    {content : String} {d' : Disk} (written : d.writeFile p content = .ok d') :
    d'.Formed ∧ ∀ q, d'.contentAt q = if q = p then some content else d.contentAt q := by
  unfold writeFile at written
  obtain ⟨above, madeAbove, placed⟩ := except_bind_ok written
  have plainAbove : ".." ∉ p.dropLast := fun up => plain (List.dropLast_subset _ up)
  obtain ⟨formedAbove, sameAbove⟩ := makeDirs_contents formed p.dropLast madeAbove
  have dirAbove := makeDirs_plain p.dropLast plainAbove madeAbove
  rw [follow_of_dirs formedAbove plain (by simpa using dirAbove)] at placed
  simp only [List.nil_append] at placed
  split at placed
  · cases placed
  · rename_i notDir
    cases placed
    have nonempty : p ≠ [] := by
      rintro rfl
      exact notDir rfl
    refine ⟨formedAbove.set dirAbove plain (.inr fun dir => notDir (isDir_iff.mpr dir)), ?_⟩
    intro q
    rw [contentAt_set, sameAbove]
    by_cases same : q = p
    · simp [same, nonempty, Entry.content]
    · simp [same]

end Disk

end ClientGen
