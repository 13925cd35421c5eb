import ClientGen.TypeExpr

/-!
# Bare type names

`stripWrappers` runs its stages once each, in a fixed order: spaces go, then leading nullable
markers (`null|`, `undefined|`), then enclosing `Array<…>` wrappers, then everything from a `[`
on. A text that no stage changes is *bare*, and a pass leaves a text as it is exactly when the
text is bare (`stripWrappers_eq_self_iff`).

What a pass returns has no space and no `[` left to cut at, and when only markers go it has no
marker either. It can still start with a wrapper that a later stage uncovered: a marker from
inside `Array<…>` (`Array<null | Pet>` strips to `null|Pet`), or an `Array<…>` that stood in
front of a `[` (`Array<Pet>[]` strips to `Array<Pet>`). So a second pass changes the result
exactly when array designations go too and the first pass left one of these in front
(`stripWrappers_twice_eq_iff`); one pass is not always enough
(`stripWrappers_leaves_uncovered_wrappers`).
-/
namespace ClientGen

/-! ## Finding one character -/

namespace Text

/-- Where a one-character pattern is found, that character stands, and nowhere before. -/
theorem findIndex?_single_eq_some {c : Char} {cs : List Char} {i : Nat}
    (found : findIndex? [c] cs = some i) : cs[i]? = some c ∧ c ∉ cs.take i := by
  induction cs generalizing i with
  | nil => simp [findIndex?] at found
  | cons d rest ih =>
    by_cases here : c = d
    · subst here
      have first : i = 0 := by simpa [findIndex?, List.isPrefixOf] using found.symm
      simp [first]
    · have later : (findIndex? [c] rest).map (· + 1) = some i := by
        simpa [findIndex?, List.isPrefixOf, here] using found
      obtain ⟨j, foundRest, rfl⟩ := Option.map_eq_some_iff.mp later
      obtain ⟨at_, before⟩ := ih foundRest
      exact ⟨at_, by simp [here, before]⟩

/-- A one-character pattern that is not found does not occur. -/
theorem not_mem_of_findIndex?_single_eq_none {c : Char} {cs : List Char}
    (missing : findIndex? [c] cs = none) : c ∉ cs := by
  induction cs with
  | nil => simp
  | cons d rest ih =>
    by_cases here : c = d
    · simp [findIndex?, List.isPrefixOf, here] at missing
    · have missingRest : findIndex? [c] rest = none := by
        simpa [findIndex?, List.isPrefixOf, here] using missing
      simp [here, ih missingRest]

end Text

namespace TypeExpr

/-! ## Wrappers, and the stage that cuts at `[` -/

/-- The text starts with a nullable marker, `null|` or `undefined|`. -/
def Marked (cs : List Char) : Prop :=
  ['n', 'u', 'l', 'l', '|'] <+: cs ∨ ['u', 'n', 'd', 'e', 'f', 'i', 'n', 'e', 'd', '|'] <+: cs

/-- The text is enclosed in `Array<…>`: it starts with `Array<` and ends with `>`. -/
def ArrayWrapped (cs : List Char) : Prop :=
  ['A', 'r', 'r', 'a', 'y', '<'] <+: cs ∧ cs.getLast? = some '>'

/-- A wrapper that a pass of stripping takes off the front of a text. -/
def Wrapped (cs : List Char) : Prop := Marked cs ∨ ArrayWrapped cs

/-- The text has no `[` to cut at: none at all, or one that starts it. -/
def Uncut (cs : List Char) : Prop := '[' ∉ cs ∨ cs.head? = some '['

/-- A type text that no stage of stripping changes; array wrappers and `[` only count when
array designations go too. -/
structure Bare (nullableOnly : Bool) (cs : List Char) : Prop where
  noSpace : ' ' ∉ cs
  unmarked : ¬ Marked cs
  unwrapped : nullableOnly = false → ¬ ArrayWrapped cs
  uncut : nullableOnly = false → Uncut cs

/-- The last stage of stripping: the text up to its first `[`, unless that `[` starts it. -/
def cutBracket (cs : List Char) : List Char :=
  match Text.findIndex? ['['] cs with
  | some (pos + 1) => cs.take (pos + 1)
  | _ => cs

/-- Stripping, on the characters of a text. -/
def stripChars (cs : List Char) (nullableOnly : Bool) : List Char :=
  let cs := dropNullMarkers (cs.filter (· ≠ ' '))
  if cs.isEmpty || nullableOnly then cs else cutBracket (dropArrayWrappers cs)

/-! ## Each stage keeps a part of its input and leaves no work for itself -/

theorem dropNullMarkers_sublist (cs : List Char) : (dropNullMarkers cs).Sublist cs := by
  fun_induction dropNullMarkers cs with
  | case1 rest ih => exact ih.trans (List.sublist_append_right ['n', 'u', 'l', 'l', '|'] rest)
  | case2 rest ih =>
    exact ih.trans
      (List.sublist_append_right ['u', 'n', 'd', 'e', 'f', 'i', 'n', 'e', 'd', '|'] rest)
  | case3 cs => exact List.Sublist.refl cs

theorem not_marked_dropNullMarkers (cs : List Char) : ¬ Marked (dropNullMarkers cs) := by
  fun_induction dropNullMarkers cs with
  | case1 rest ih => exact ih
  | case2 rest ih => exact ih
  | case3 cs notNull notUndefined =>
    rintro (⟨rest, rfl⟩ | ⟨rest, rfl⟩)
    · exact notNull rest rfl
    · exact notUndefined rest rfl

theorem dropNullMarkers_eq_self_iff (cs : List Char) : dropNullMarkers cs = cs ↔ ¬ Marked cs := by
  constructor
  · intro same
    exact same ▸ not_marked_dropNullMarkers cs
  · intro unmarked
    unfold dropNullMarkers
    split
    · exact absurd (.inl ⟨_, rfl⟩) unmarked
    · exact absurd (.inr ⟨_, rfl⟩) unmarked
    · rfl

theorem dropArrayWrappers_sublist (cs : List Char) : (dropArrayWrappers cs).Sublist cs := by
  fun_induction dropArrayWrappers cs with
  | case1 rest _ ih =>
    exact ih.trans ((List.dropLast_sublist rest).trans
      (List.sublist_append_right ['A', 'r', 'r', 'a', 'y', '<'] rest))
  | case2 rest _ => exact List.Sublist.refl _
  | case3 cs _ => exact List.Sublist.refl cs

/-- Behind its `Array<`, an enclosed text ends where its rest ends. -/
theorem arrayWrapped_opening_iff (rest : List Char) :
    ArrayWrapped ('A' :: 'r' :: 'r' :: 'a' :: 'y' :: '<' :: rest) ↔ rest.getLast? = some '>' := by
  cases rest with
  | nil => simp [ArrayWrapped]
  | cons c more => simp [ArrayWrapped, List.getLast?_cons_cons]

theorem not_arrayWrapped_dropArrayWrappers (cs : List Char) :
    ¬ ArrayWrapped (dropArrayWrappers cs) := by
  fun_induction dropArrayWrappers cs with
  | case1 rest _ ih => exact ih
  | case2 rest notLast => exact (not_congr (arrayWrapped_opening_iff rest)).mpr notLast
  | case3 cs other =>
    rintro ⟨⟨rest, rfl⟩, -⟩
    exact other rest rfl

theorem dropArrayWrappers_eq_self_iff (cs : List Char) :
    dropArrayWrappers cs = cs ↔ ¬ ArrayWrapped cs := by
  constructor
  · intro same
    exact same ▸ not_arrayWrapped_dropArrayWrappers cs
  · intro unwrapped
    unfold dropArrayWrappers
    split
    · next rest => rw [if_neg ((not_congr (arrayWrapped_opening_iff rest)).mp unwrapped)]
    · rfl

theorem cutBracket_sublist (cs : List Char) : (cutBracket cs).Sublist cs := by
  unfold cutBracket
  split
  · exact List.take_sublist _ cs
  · exact List.Sublist.refl cs

theorem uncut_cutBracket (cs : List Char) : Uncut (cutBracket cs) := by
  unfold cutBracket
  split
  · next pos found => exact .inl (Text.findIndex?_single_eq_some found).2
  · next notCut =>
    cases found : Text.findIndex? ['['] cs with
    | none => exact .inl (Text.not_mem_of_findIndex?_single_eq_none found)
    | some i =>
      cases i with
      | zero => exact .inr (by simpa [List.head?_eq_getElem?] using
          (Text.findIndex?_single_eq_some found).1)
      | succ pos => exact absurd found (notCut pos)

theorem cutBracket_eq_self_iff (cs : List Char) : cutBracket cs = cs ↔ Uncut cs := by
  constructor
  · intro same
    exact same ▸ uncut_cutBracket cs
  · intro uncut
    unfold cutBracket
    split
    · next pos found =>
      obtain ⟨at_, before⟩ := Text.findIndex?_single_eq_some found
      rcases uncut with none | first
      · exact absurd (List.mem_of_getElem? at_) none
      · cases cs with
        | nil => simp at first
        | cons d rest =>
          simp only [List.head?_cons, Option.some.injEq] at first
          simp [first] at before
    · rfl

/-! ## A whole pass -/

theorem stripChars_sublist (cs : List Char) (nullableOnly : Bool) :
    (stripChars cs nullableOnly).Sublist (dropNullMarkers (cs.filter (· ≠ ' '))) := by
  dsimp only [stripChars]
  split
  · exact List.Sublist.refl _
  · exact (cutBracket_sublist _).trans (dropArrayWrappers_sublist _)

theorem space_not_mem_stripChars (cs : List Char) (nullableOnly : Bool) :
    ' ' ∉ stripChars cs nullableOnly := by
  intro space
  have kept := ((stripChars_sublist cs nullableOnly).trans
    (dropNullMarkers_sublist _)).subset space
  simp at kept

theorem uncut_stripChars (cs : List Char) : Uncut (stripChars cs false) := by
  dsimp only [stripChars]
  split
  · next short =>
    have empty : (dropNullMarkers (cs.filter (· ≠ ' '))).isEmpty = true := by simpa using short
    rw [List.isEmpty_iff.mp empty]
    exact .inl List.not_mem_nil
  · exact uncut_cutBracket _

/-- A pass leaves the characters of a text as they are exactly when the text is bare. Every stage
keeps a part of its input, so none may shorten a text the pass keeps; with array designations going,
the array stage and the cut keep it whole too. -/
theorem stripChars_eq_self_iff (cs : List Char) (nullableOnly : Bool) :
    stripChars cs nullableOnly = cs ↔ Bare nullableOnly cs := by
  constructor
  · intro same
    have whole : ∀ {part : List Char}, part.Sublist cs →
        (stripChars cs nullableOnly).Sublist part → part = cs := fun kept within =>
      kept.eq_of_length (Nat.le_antisymm kept.length_le (same ▸ within.length_le))
    have filtered : cs.filter (· ≠ ' ') = cs :=
      whole List.filter_sublist ((stripChars_sublist cs nullableOnly).trans
        (dropNullMarkers_sublist _))
    have unmarked : dropNullMarkers cs = cs := by
      have := whole ((dropNullMarkers_sublist _).trans List.filter_sublist)
        (stripChars_sublist cs nullableOnly)
      rwa [filtered] at this
    have arrays : nullableOnly = false → ¬ ArrayWrapped cs ∧ Uncut cs := by
      rintro rfl
      by_cases empty : cs = []
      · subst empty
        exact ⟨fun wrapped => by simp [ArrayWrapped] at wrapped, .inl List.not_mem_nil⟩
      have pass : stripChars cs false = cutBracket (dropArrayWrappers cs) := by
        dsimp only [stripChars]
        rw [filtered, unmarked, if_neg (by simpa using empty)]
      have unwrapped : dropArrayWrappers cs = cs :=
        whole (dropArrayWrappers_sublist cs) (by rw [pass]; exact cutBracket_sublist _)
      have uncut : cutBracket cs = cs := calc
        cutBracket cs = cutBracket (dropArrayWrappers cs) := by rw [unwrapped]
        _ = stripChars cs false := pass.symm
        _ = cs := same
      exact ⟨(dropArrayWrappers_eq_self_iff cs).mp unwrapped, (cutBracket_eq_self_iff cs).mp uncut⟩
    exact ⟨same ▸ space_not_mem_stripChars cs nullableOnly,
      (dropNullMarkers_eq_self_iff cs).mp unmarked, fun dropped => (arrays dropped).1,
      fun dropped => (arrays dropped).2⟩
  · intro bare
    have filtered : cs.filter (· ≠ ' ') = cs := List.filter_eq_self.mpr fun c member => by
      have other : c ≠ ' ' := fun space => bare.noSpace (space ▸ member)
      simpa using other
    dsimp only [stripChars]
    rw [filtered, (dropNullMarkers_eq_self_iff cs).mpr bare.unmarked]
    split
    · rfl
    · next long =>
      have dropped : nullableOnly = false := (by simpa using long : cs ≠ [] ∧ _).2
      rw [(dropArrayWrappers_eq_self_iff cs).mpr (bare.unwrapped dropped),
        (cutBracket_eq_self_iff cs).mpr (bare.uncut dropped)]

/-- What a pass returns is bare exactly when only markers go, or it starts with no wrapper. -/
theorem bare_stripChars_iff (cs : List Char) (nullableOnly : Bool) :
    Bare nullableOnly (stripChars cs nullableOnly) ↔
      nullableOnly = true ∨ ¬ Wrapped (stripChars cs nullableOnly) := by
  cases nullableOnly with
  | true =>
    have pass : stripChars cs true = dropNullMarkers (cs.filter (· ≠ ' ')) := by
      dsimp only [stripChars]
      rw [Bool.or_true, if_pos rfl]
    refine iff_of_true ⟨space_not_mem_stripChars cs true, pass ▸ not_marked_dropNullMarkers _,
      fun kept => Bool.noConfusion kept, fun kept => Bool.noConfusion kept⟩ (.inl rfl)
  | false =>
    constructor
    · intro bare
      refine .inr ?_
      rintro (marked | wrapped)
      · exact bare.unmarked marked
      · exact bare.unwrapped rfl wrapped
    · rintro (nope | unwrapped)
      · cases nope
      · exact ⟨space_not_mem_stripChars cs false, fun marked => unwrapped (.inl marked),
          fun _ wrapped => unwrapped (.inr wrapped), fun _ => uncut_stripChars cs⟩

end TypeExpr

theorem toList_stripWrappers (text : String) (nullableOnly : Bool) :
    (stripWrappers text nullableOnly).toList = TypeExpr.stripChars text.toList nullableOnly := by
  dsimp only [stripWrappers, TypeExpr.stripChars, TypeExpr.cutBracket]
  split
  · exact String.toList_ofList
  · cases Text.findIndex? ['['] (TypeExpr.dropArrayWrappers
        (TypeExpr.dropNullMarkers (text.toList.filter (· ≠ ' ')))) with
    | none => exact String.toList_ofList
    | some pos => cases pos <;> exact String.toList_ofList

/-! ## Stripping twice -/

/-- A pass leaves a type text as it is exactly when the text is bare. -/
theorem stripWrappers_eq_self_iff (text : String) (nullableOnly : Bool) :
    stripWrappers text nullableOnly = text ↔ TypeExpr.Bare nullableOnly text.toList := by
  rw [← String.toList_inj, toList_stripWrappers]
  exact TypeExpr.stripChars_eq_self_iff text.toList nullableOnly

/-- A second pass of stripping changes nothing exactly when only nullable markers go, or the
first pass left neither a marker nor an `Array<…>` in front. -/
theorem stripWrappers_twice_eq_iff (text : String) (nullableOnly : Bool) :
    stripWrappers (stripWrappers text nullableOnly) nullableOnly =
        stripWrappers text nullableOnly ↔
      nullableOnly = true ∨ ¬ TypeExpr.Wrapped (stripWrappers text nullableOnly).toList := by
  rw [stripWrappers_eq_self_iff, toList_stripWrappers]
  exact TypeExpr.bare_stripChars_iff text.toList nullableOnly

/-- One pass is not always enough: an `Array<…>` in front of `[]`, and a marker inside
`Array<…>`, are left for a second pass. -/
theorem stripWrappers_leaves_uncovered_wrappers :
    stripWrappers "Array<Pet>[]" false = "Array<Pet>" ∧ stripWrappers "Array<Pet>" false = "Pet" ∧
      stripWrappers "Array<null | Pet>" false = "null|Pet" ∧
      stripWrappers "null|Pet" false = "Pet" := by
  refine ⟨?_, ?_, ?_, ?_⟩ <;> with_unfolding_all rfl

end ClientGen
