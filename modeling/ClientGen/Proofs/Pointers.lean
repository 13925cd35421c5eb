import ClientGen.Proofs.EmbeddedText
import ClientGen.Reference

/-!
# References written from paths

A local reference is a JSON pointer (RFC 6901) written after `#/`: the steps from the document
to a value, separated by `/`, each an index of a list in decimal or a key of a mapping with `~`
written `~0` and `/` written `~1` (`pointer`). `Reference.resolve` reads such a reference back:
it splits at `/`, skips empty segments, and undoes `~1` before `~0`.

For every path of steps that leads from the document to a value (`descend`), resolving the
pointer written from it gives that value, as long as the path has a step and none of its keys is
empty (`resolve_pointer`). Undoing the escapes gives back every key (`unescape_escape`), and no
written step holds a `/`, so splitting gives back the steps (`segments_pointer`). An empty key
is read as an empty segment and skipped: the pointer `#/` to the value under the empty key
resolves to the empty mapping that stands for the document (`resolve_skips_empty_key`).
-/
namespace ClientGen.Reference

/-- A step from a value to one of its members: a key of a mapping or an index of a list. -/
inductive Step where
  | key (name : String)
  | index (i : Nat)
  deriving Repr, DecidableEq

namespace Step

/-- The member a step leads to: the value a mapping holds under the key, as looking the key up
finds it, or the item of a list at the index. -/
def into : Step → Value → Option Value
  | .key name, .map entries => Value.entryOf entries (.str name)
  | .index i, .list items => items[i]?
  | _, _ => none

/-- How a step is written in a pointer: an index in decimal, and a key with `~` written `~0`,
then `/` written `~1`. -/
def escape : Step → String
  | .key name => Text.replace (Text.replace name "~" "~0") "/" "~1"
  | .index i => toString i

/-- The segment a step is read back as: the key, or the index in decimal. -/
def text : Step → String
  | .key name => name
  | .index i => toString i

end Step

/-- The value at the end of a path of steps, when each step finds its member. -/
def descend : Value → List Step → Option Value
  | node, [] => some node
  | node, step :: rest => (step.into node).bind fun next => descend next rest

/-- The local reference to the end of a path. -/
def pointer (steps : List Step) : String := "#/" ++ "/".intercalate (steps.map Step.escape)

/-! ## Escaping a key and undoing it -/

/-- A character of a key as a pointer writes it. -/
def escapeChar (c : Char) : List Char :=
  if c = '~' then ['~', '0'] else if c = '/' then ['~', '1'] else [c]

/-- A key is written character by character. -/
theorem escape_key_toList (name : String) :
    (Step.escape (.key name)).toList = name.toList.flatMap escapeChar := by
  simp only [Step.escape, Text.toList_replace]
  rw [show "~".toList = ['~'] by simp, show "/".toList = ['/'] by simp,
    Text.replaceAux_single, Text.replaceAux_single, List.flatMap_assoc]
  congr 1
  funext c
  by_cases tilde : c = '~'
  · simp [escapeChar, tilde]
  · by_cases slash : c = '/' <;> simp [escapeChar, tilde, slash]

/-- Undoing `~1` in a written key leaves its tildes written `~0`: no `~` of the key is followed
by `1`, since each is written `~0`. -/
theorem replaceAux_tilde_one :
    ∀ cs : List Char, Text.replaceAux ['~', '1'] ['/'] (cs.flatMap escapeChar) =
      cs.flatMap fun c => if c = '~' then ['~', '0'] else [c]
  | [] => by simp [Text.replaceAux]
  | c :: rest => by
    have ih := replaceAux_tilde_one rest
    by_cases tilde : c = '~'
    · subst tilde
      simp [escapeChar, Text.replaceAux, ih]
    · by_cases slash : c = '/'
      · subst slash
        simp [escapeChar, Text.replaceAux, ih]
      · simp [escapeChar, Text.replaceAux, tilde, slash, Ne.symm tilde, ih]

/-- Undoing `~0` then gives the key back. -/
theorem replaceAux_tilde_zero :
    ∀ cs : List Char,
      Text.replaceAux ['~', '0'] ['~'] (cs.flatMap fun c => if c = '~' then ['~', '0'] else [c]) =
        cs
  | [] => by simp [Text.replaceAux]
  | c :: rest => by
    have ih := replaceAux_tilde_zero rest
    by_cases tilde : c = '~'
    · subst tilde
      simp [Text.replaceAux, ih]
    · simp [Text.replaceAux, tilde, Ne.symm tilde, ih]

/-- Reading a written key back, `~1` before `~0`, gives the key. -/
theorem unescape_escape (name : String) :
    Text.replace (Text.replace (Step.escape (.key name)) "~1" "/") "~0" "~" = name := by
  apply String.toList_injective
  simp only [Text.toList_replace, escape_key_toList]
  rw [show "~1".toList = ['~', '1'] by simp, show "/".toList = ['/'] by simp,
    show "~0".toList = ['~', '0'] by simp, show "~".toList = ['~'] by simp,
    replaceAux_tilde_one, replaceAux_tilde_zero]

/-! ## Indices in decimal -/

/-- Every character from `0` to `9` is a digit, no white space, and a decimal digit of its own
value. -/
theorem asciiDigit_ranges : ∀ n < 58, 48 ≤ n → Text.inRanges Text.digitRanges n = true ∧
    Text.inRanges Text.blankRanges n = false ∧ Text.rangeOf Text.decimalRanges n = some (48, 57) := by
  with_unfolding_all decide

theorem asciiDigit_classes {c : Char} (digit : c.isDigit = true) :
    Text.isDigit c = true ∧ Text.isBlank c = false ∧
      Text.decimalValue c = some (c.toNat - '0'.toNat) := by
  have bounds : 48 ≤ c.toNat ∧ c.toNat ≤ 57 := by
    simp only [Char.isDigit, Bool.and_eq_true, decide_eq_true_eq] at digit
    exact digit
  obtain ⟨isDigit, notBlank, decimal⟩ := asciiDigit_ranges c.toNat (by omega) bounds.1
  refine ⟨isDigit, notBlank, ?_⟩
  simp only [Text.decimalValue, decimal, Option.map_some]
  congr 1
  simp
  omega

/-- Digits from `0` to `9`, with no underscore, are read as the number they write. -/
theorem digitsWithUnderscores_digits :
    ∀ (acc : Nat) (cs : List Char), (∀ c ∈ cs, c.isDigit = true) →
      Text.digitsWithUnderscores acc cs = some (Nat.ofDigitChars 10 cs acc)
  | acc, [], _ => rfl
  | acc, c :: rest, digits => by
    have notUnderscore : c ≠ '_' := by
      rintro rfl
      simp at digits
    obtain ⟨-, -, decimal⟩ := asciiDigit_classes (digits c List.mem_cons_self)
    rw [Text.digitsWithUnderscores.eq_def]
    split
    · next matched => cases matched
    · next matched => cases matched; exact absurd rfl notUnderscore
    · next matched => cases matched; exact absurd rfl notUnderscore
    · next matched => cases matched; exact absurd rfl notUnderscore
    · next matched =>
      cases matched
      rw [decimal]
      exact digitsWithUnderscores_digits _ rest fun d member =>
        digits d (List.mem_cons_of_mem c member)

theorem digits_toString (n : Nat) : ∀ c ∈ (toString n).toList, c.isDigit = true := by
  intro c member
  rw [show (toString n).toList = Nat.toDigits 10 n by simp [Nat.repr_eq_ofList_toDigits]] at member
  exact Nat.isDigit_of_mem_toDigits (by decide) (by decide) member

/-- An index written in decimal is all digits. -/
theorem allDigits_toString (n : Nat) : Text.allDigits (toString n) = true := by
  have written : (toString n).isEmpty = false := by
    rw [String.isEmpty_eq_false_iff]
    exact Nat.repr_ne_empty
  simp only [Text.allDigits, written, Bool.not_false, Bool.true_and, List.all_eq_true]
  exact fun c member => (asciiDigit_classes (digits_toString n c member)).1

/-- Digits with no sign in front read as the number they spell. -/
theorem readSigned_unsigned {c : Char} {rest : List Char} {n : Nat}
    (notSign : c ≠ '-' ∧ c ≠ '+' ∧ c ≠ '_')
    (read : Text.digitsWithUnderscores 0 (c :: rest) = some n) :
    Text.readSigned (c :: rest) = some n := by
  simp [Text.readSigned, notSign.1, notSign.2.1, notSign.2.2, read]

/-- An index written in decimal reads back as itself. -/
theorem readInteger_toString (n : Nat) : Text.readInteger (toString n) = some n := by
  have written : (toString n).toList = Nat.toDigits 10 n := by
    simp [Nat.repr_eq_ofList_toDigits]
  have digits := digits_toString n
  rw [written] at digits
  have kept : ∀ cs : List Char, (∀ c ∈ cs, c.isDigit = true) → cs.dropWhile Text.isBlank = cs := by
    intro cs all
    cases cs with
    | nil => rfl
    | cons c rest => simp [(asciiDigit_classes (all c List.mem_cons_self)).2.1]
  have stripped : (Text.strip (toString n)).toList = Nat.toDigits 10 n := by
    have reversed : ∀ c ∈ (Nat.toDigits 10 n).reverse, c.isDigit = true :=
      fun c member => digits c (List.mem_reverse.mp member)
    simp only [Text.strip, Text.trimBy, String.toList_ofList, written]
    rw [kept _ digits, kept _ reversed, List.reverse_reverse]
  obtain ⟨c, rest, first⟩ := List.exists_cons_of_ne_nil (@Nat.toDigits_ne_nil n 10)
  have leading := digits c (by rw [first]; exact List.mem_cons_self)
  have notSign : c ≠ '-' ∧ c ≠ '+' ∧ c ≠ '_' := by
    refine ⟨?_, ?_, ?_⟩ <;> rintro rfl <;> simp at leading
  have read := digitsWithUnderscores_digits 0 _ digits
  rw [Nat.ofDigitChars_toDigits (by decide) (by decide), first] at read
  rw [Text.readInteger, stripped, first]
  exact readSigned_unsigned notSign read

/-! ## Splitting a pointer into its steps -/

/-- A text without the separator is the last piece. -/
theorem splitAux_of_not_mem (sep : Char) :
    ∀ (acc piece : List Char), sep ∉ piece → Text.splitAux [sep] acc piece = [acc.reverse ++ piece]
  | acc, [], _ => by simp [Text.splitAux]
  | acc, c :: rest, absent => by
    have differs : c ≠ sep := fun same => absent (same ▸ List.mem_cons_self)
    rw [Text.splitAux,
      splitAux_of_not_mem sep (c :: acc) rest fun member => absent (List.mem_cons_of_mem c member)]
    simp [Ne.symm differs]

/-- A piece without the separator, then the separator, ends the first piece. -/
theorem splitAux_append (sep : Char) :
    ∀ (acc piece rest : List Char), sep ∉ piece →
      Text.splitAux [sep] acc (piece ++ sep :: rest) =
        (acc.reverse ++ piece) :: Text.splitAux [sep] [] rest
  | acc, [], rest, _ => by
    rw [List.nil_append, Text.splitAux]
    simp
  | acc, c :: piece, rest, absent => by
    have differs : c ≠ sep := fun same => absent (same ▸ List.mem_cons_self)
    rw [List.cons_append, Text.splitAux, ← List.cons_append, splitAux_append sep (c :: acc) piece rest
      fun member => absent (List.mem_cons_of_mem c member)]
    simp [Ne.symm differs]

/-- Splitting pieces joined by a separator none of them holds gives the pieces back. -/
theorem splitAux_intercalate (sep : Char) :
    ∀ pieces : List (List Char), pieces ≠ [] → (∀ piece ∈ pieces, sep ∉ piece) →
      Text.splitAux [sep] [] ([sep].intercalate pieces) = pieces
  | [piece], _, absent => by
    simp [splitAux_of_not_mem sep [] piece (absent piece List.mem_cons_self)]
  | piece :: next :: rest, _, absent => by
    rw [List.intercalate_cons_cons, List.append_assoc, List.singleton_append,
      splitAux_append sep [] piece _ (absent piece List.mem_cons_self),
      splitAux_intercalate sep (next :: rest) (List.cons_ne_nil _ _)
        fun other member => absent other (List.mem_cons_of_mem piece member)]
    simp

/-- A pattern whose first character does not occur changes nothing. -/
theorem replaceAux_of_not_mem (p : Char) (ps rep : List Char) :
    ∀ cs : List Char, p ∉ cs → Text.replaceAux (p :: ps) rep cs = cs
  | [], _ => by simp [Text.replaceAux]
  | c :: rest, absent => by
    have differs : c ≠ p := fun same => absent (same ▸ List.mem_cons_self)
    rw [Text.replaceAux, replaceAux_of_not_mem p ps rep rest
      fun member => absent (List.mem_cons_of_mem c member)]
    simp [Ne.symm differs]

/-- No written step holds a `/`. -/
theorem slash_not_mem_escape : ∀ step : Step, '/' ∉ step.escape.toList
  | .key name => by
    rw [escape_key_toList, List.mem_flatMap]
    rintro ⟨c, -, written⟩
    unfold escapeChar at written
    split_ifs at written with tilde slash <;> simp at written
    exact slash written.symm
  | .index i => fun member => by
    have digit := digits_toString i '/' member
    simp at digit

/-- Every step but the empty key is written as a segment that is not empty. -/
theorem escape_ne_empty : ∀ step : Step, step ≠ .key "" → step.escape ≠ ""
  | .key name, named => by
    have nonempty : name.toList ≠ [] := by
      simpa [String.toList_eq_nil_iff] using fun empty => named (congrArg Step.key empty)
    obtain ⟨c, rest, spelled⟩ := List.exists_cons_of_ne_nil nonempty
    intro empty
    have written := escape_key_toList name
    rw [empty, spelled, List.flatMap_cons] at written
    unfold escapeChar at written
    split_ifs at written <;> simp at written
  | .index i, _ => Nat.repr_ne_empty

/-- Undoing the escapes of a written step gives its segment: an index has no `~`. -/
theorem unescape_escape_step : ∀ step : Step,
    Text.replace (Text.replace step.escape "~1" "/") "~0" "~" = step.text
  | .key name => unescape_escape name
  | .index i => by
    have noTilde : '~' ∉ (toString i).toList := fun member => by
      have digit := digits_toString i '~' member
      simp at digit
    apply String.toList_injective
    rw [Text.toList_replace, Text.toList_replace, show "~1".toList = ['~', '1'] by simp,
      show "~0".toList = ['~', '0'] by simp]
    simp only [Step.escape, Step.text]
    rw [replaceAux_of_not_mem '~' ['1'] _ _ noTilde, replaceAux_of_not_mem '~' ['0'] _ _ noTilde]

/-- The segments of a pointer are the segments of its steps, when no step is the empty key. -/
theorem segments_pointer {steps : List Step} (nonempty : steps ≠ [])
    (named : ∀ step ∈ steps, step ≠ .key "") : segments (pointer steps) = steps.map Step.text := by
  have noSlash : ∀ piece ∈ steps.map fun step => step.escape.toList, '/' ∉ piece := by
    intro piece member
    obtain ⟨step, -, rfl⟩ := List.mem_map.mp member
    exact slash_not_mem_escape step
  have pieces : Text.splitOn (Text.dropChars (pointer steps) 2) "/" = steps.map Step.escape := by
    have dropped : (Text.dropChars (pointer steps) 2).toList =
        ['/'].intercalate (steps.map fun step => step.escape.toList) := by
      simp [Text.dropChars, pointer, String.toList_intercalate, Function.comp_def]
    rw [Text.splitOn, dropped, show "/".toList = ['/'] by simp,
      splitAux_intercalate '/' _ (by simpa using nonempty) noSlash, List.map_map]
    simp
  have written : ∀ piece ∈ steps.map Step.escape, piece ≠ "" := by
    intro piece member
    obtain ⟨step, inSteps, rfl⟩ := List.mem_map.mp member
    exact escape_ne_empty step (named step inSteps)
  unfold segments
  rw [pieces, List.filter_eq_self.mpr (by simpa using written), List.map_map]
  exact List.map_congr_left fun step _ => unescape_escape_step step

/-! ## Resolving the pointer of a path -/

/-- A step that finds its member is taken at its segment. -/
theorem stepInto_text {node next : Value} :
    ∀ {step : Step}, step.into node = some next → stepInto node step.text = .ok (some next)
  | .key name, found => by
    cases node with
    | map entries => exact congrArg Except.ok found
    | _ => cases found
  | .index i, found => by
    cases node with
    | list items =>
      have below : i < items.length := (List.getElem?_eq_some_iff.mp found).1
      simp only [Step.into] at found
      rw [Step.text, stepInto, if_pos (allDigits_toString i), readInteger_toString]
      simpa [below] using found
    | _ => cases found

/-- Walking the segments of a path goes where the path leads. -/
theorem walk_descend (ref : String) :
    ∀ (node : Value) (steps : List Step) {target : Value}, descend node steps = some target →
      walk ref node (steps.map Step.text) = .ok target
  | node, [], target, reached => by
    cases reached
    rfl
  | node, step :: rest, target, reached => by
    obtain ⟨next, found, reached⟩ := Option.bind_eq_some_iff.mp reached
    rw [List.map_cons, walk, stepInto_text found]
    exact walk_descend ref next rest reached

/-- Resolving the pointer written from a path that leads from the document to a value gives
that value, when the path has a step and none of its keys is empty: the segments read back are
the steps, keys with `~` and `/` included, and each is taken as the path takes it. -/
theorem resolve_pointer {doc target : Value} {steps : List Step} (nonempty : steps ≠ [])
    (named : ∀ step ∈ steps, step ≠ .key "") (reached : descend doc steps = some target) :
    resolve doc (pointer steps) = .ok target := by
  have isLocal : Text.startsWith (pointer steps) "#/" = true := by
    simp [Text.startsWith, pointer]
  obtain ⟨first, rest, rfl⟩ := List.exists_cons_of_ne_nil nonempty
  unfold resolve
  rw [isLocal, segments_pointer nonempty named]
  exact walk_descend _ doc _ reached

/-- A mapping under a list, keyed by a text with a `/` and a `~`. -/
def slashDocument : Value := .object [("list", .list [.object [("a/b~", .int 1)]])]

theorem resolve_pointer_slash_key :
    [Step.key "list", .index 0, .key "a/b~"] ≠ [] ∧
      (∀ step ∈ [Step.key "list", .index 0, .key "a/b~"], step ≠ .key "") ∧
      descend slashDocument [.key "list", .index 0, .key "a/b~"] = some (.int 1) ∧
      pointer [.key "list", .index 0, .key "a/b~"] = "#/list/0/a~1b~0" ∧
      resolve slashDocument (pointer [.key "list", .index 0, .key "a/b~"]) = .ok (.int 1) :=
  ⟨by simp, by simp, by with_unfolding_all rfl, by with_unfolding_all rfl,
    resolve_pointer (by simp) (by simp) (by with_unfolding_all rfl)⟩

/-- A mapping under the empty key. -/
def emptyKeyDocument : Value := .object [("", .object [("x", .int 1)])]

/-- The empty key is written as an empty segment, which is skipped: its pointer is `#/`, which
resolves to the empty mapping that stands for the document, not to the value under the key. -/
theorem resolve_skips_empty_key :
    descend emptyKeyDocument [.key ""] = some (.object [("x", .int 1)]) ∧
      pointer [.key ""] = "#/" ∧
      resolve emptyKeyDocument (pointer [.key ""]) = .ok (.map []) ∧
      resolve emptyKeyDocument (pointer [.key ""]) ≠ .ok (.object [("x", .int 1)]) := by
  have resolved : resolve emptyKeyDocument (pointer [.key ""]) = .ok (.map []) := by
    with_unfolding_all rfl
  refine ⟨by with_unfolding_all rfl, by with_unfolding_all rfl, resolved, ?_⟩
  rw [resolved]
  intro same
  cases same

end ClientGen.Reference
