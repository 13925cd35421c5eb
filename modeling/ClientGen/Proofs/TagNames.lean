import ClientGen.Proofs.ExcludedOperations
import ClientGen.Proofs.ClassNames

/-!
# Configured tags and the services of operations

An operation is filed under the service `tagName t default` of its first tag `t`, the default
standing for a false tag. A configured tag list goes another way: each tag is displayed as text,
trimmed, dropped when null or blank, and only then named. Trimming never changes a name, since
white space is no identifier character (`tagName_strip`). So the two agree on every true tag
whose text is not blank, and a configured `[t]` then keeps or drops exactly the service of the
operations whose first tag is `t`. They part on the rest: a null or blank tag configures no
filter at all, and a false tag such as `0`, `false` or `[]` names the service its text names
(`0`, `False`, none) where an operation with that first tag is filed under the default
(`normalizeTags_single`).
-/
namespace ClientGen.Naming

open Text

/-! ## Trimming and identifiers -/

/-- A blank character is no ASCII letter or digit. -/
theorem not_alnum_of_blank {c : Char} (blank : isBlank c = true) : isAsciiAlnum c = false := by
  cases alnum : isAsciiAlnum c
  · rfl
  have word : isWordChar c = true := by
    simp only [isAsciiAlnum] at alnum
    simp [isWordChar, alnum]
  have notBlank := @wordChar_all (fun c => !isBlank c) (by with_unfolding_all rfl) c word
  rw [blank] at notBlank
  cases notBlank

/-- Raising a letter or digit twice raises it once. -/
theorem toUpper_toUpper_of_alnum {c : Char} (alnum : isAsciiAlnum c = true) :
    c.toUpper.toUpper = c.toUpper := by
  have word : isWordChar c = true := by
    simp only [isAsciiAlnum] at alnum
    simp [isWordChar, alnum]
  have raised := @wordChar_all (fun c => c.toUpper.toUpper == c.toUpper) (by decide) c word
  exact beq_iff_eq.mp raised

/-- What is collected so far stays in front. -/
theorem identifierChars_acc (acc : List Char) (afterGap : Bool) (cs : List Char) :
    identifierChars acc afterGap cs = acc ++ identifierChars [] afterGap cs := by
  induction cs generalizing acc afterGap with
  | nil => simp [identifierChars]
  | cons c rest ih =>
    unfold identifierChars
    split
    · rw [ih, ih ([] ++ _)]
      simp
    · exact ih acc true

/-- Characters that are no letters or digits, at the end, add nothing. -/
theorem identifierChars_append_gaps (acc : List Char) (afterGap : Bool) (cs gaps : List Char)
    (noneKept : ∀ c ∈ gaps, isAsciiAlnum c = false) :
    identifierChars acc afterGap (cs ++ gaps) = identifierChars acc afterGap cs := by
  induction cs generalizing acc afterGap with
  | nil =>
    induction gaps generalizing afterGap with
    | nil => rfl
    | cons c rest ih =>
      have dropped := noneKept c (List.mem_cons_self ..)
      simp only [List.nil_append, identifierChars, dropped, Bool.false_eq_true, if_false]
      exact ih (fun c member => noneKept c (List.mem_cons_of_mem _ member)) true
  | cons c rest ih =>
    simp only [List.cons_append, identifierChars]
    split
    · exact ih _ false
    · exact ih acc true

/-- Characters that are no letters or digits, in front, only open a gap. -/
theorem identifierChars_gaps_append (acc : List Char) (afterGap : Bool) (gaps cs : List Char)
    (noneKept : ∀ c ∈ gaps, isAsciiAlnum c = false) :
    identifierChars acc afterGap (gaps ++ cs) =
      identifierChars acc (afterGap || !gaps.isEmpty) cs := by
  induction gaps generalizing afterGap with
  | nil => simp
  | cons c rest ih =>
    have dropped := noneKept c (List.mem_cons_self ..)
    simp only [List.cons_append, identifierChars, dropped, Bool.false_eq_true, if_false]
    rw [ih true (fun c member => noneKept c (List.mem_cons_of_mem _ member))]
    simp

/-- A gap before the first letter or digit only raises it, which capitalizing does anyway. -/
theorem capitalize_identifierChars_gap (cs : List Char) :
    capitalizeAscii (String.ofList (identifierChars [] true cs)) =
      capitalizeAscii (String.ofList (identifierChars [] false cs)) := by
  cases cs with
  | nil => rfl
  | cons c rest =>
    unfold identifierChars
    split
    next alnum =>
      simp only [List.nil_append, ↓reduceIte, Bool.false_eq_true]
      rw [identifierChars_acc [asciiUpper c], identifierChars_acc [c]]
      simp only [capitalizeAscii, String.toList_ofList, List.cons_append, List.nil_append]
      rw [asciiUpper, toUpper_toUpper_of_alnum alnum]
    · rfl

/-- A text is its white space at both ends around its trimmed text. -/
theorem toList_strip (s : String) :
    ∃ front back, s.toList = front ++ (strip s).toList ++ back ∧
      (∀ c ∈ front, isBlank c = true) ∧ ∀ c ∈ back, isBlank c = true := by
  have inner : s.toList.dropWhile isBlank =
      ((s.toList.dropWhile isBlank).reverse.dropWhile isBlank).reverse ++
        ((s.toList.dropWhile isBlank).reverse.takeWhile isBlank).reverse := by
    rw [← List.reverse_append, List.takeWhile_append_dropWhile, List.reverse_reverse]
  have stripped : (strip s).toList =
      ((s.toList.dropWhile isBlank).reverse.dropWhile isBlank).reverse := by
    simp only [strip, trimBy, String.toList_ofList]
  refine ⟨s.toList.takeWhile isBlank,
    ((s.toList.dropWhile isBlank).reverse.takeWhile isBlank).reverse, ?_, ?_, ?_⟩
  · rw [stripped, List.append_assoc, ← inner, List.takeWhile_append_dropWhile]
  · exact fun c member => List.all_eq_true.mp List.all_takeWhile c member
  · exact fun c member => List.all_eq_true.mp List.all_takeWhile c (List.mem_reverse.mp member)

/-- Trimming white space never changes the name a tag gives. -/
theorem tagName_strip (s : String) :
    capitalizeAscii (identifier (strip s)) = capitalizeAscii (identifier s) := by
  obtain ⟨front, back, split, frontBlank, backBlank⟩ := toList_strip s
  have noneKept : ∀ gaps : List Char, (∀ c ∈ gaps, isBlank c = true) →
      ∀ c ∈ gaps, isAsciiAlnum c = false :=
    fun _ blank c member => not_alnum_of_blank (blank c member)
  simp only [identifier]
  rw [split, identifierChars_append_gaps _ _ _ _ (noneKept back backBlank),
    identifierChars_gaps_append _ _ _ _ (noneKept front frontBlank), Bool.false_or]
  cases front.isEmpty
  · exact (capitalize_identifierChars_gap _).symm
  · rfl

/-- A true tag is named by its text. -/
theorem tagName_of_truthy {tag : Value} (true_ : tag.truthy = true) (default : Value) :
    tagName tag default = capitalizeAscii (identifier tag.display) := by
  simp [tagName, true_]

/-- A text that is not blank gives the name of its trimmed text. -/
theorem tagName_strip_of_ne {s : String} (notBlank : strip s ≠ "") (default default' : Value) :
    tagName (.str (strip s)) default = tagName (.str s) default' := by
  have notEmpty : s ≠ "" := fun empty => notBlank (by subst empty; decide)
  rw [tagName_of_truthy (by simpa [Value.truthy] using notBlank),
    tagName_of_truthy (by simpa [Value.truthy] using notEmpty)]
  exact tagName_strip s

end ClientGen.Naming

namespace ClientGen.Selection

theorem normalizeTags_null : normalizeTags .null = none := rfl

/-- A null configured tag configures nothing. -/
theorem normalizeTags_null_single : normalizeTags (.list [.null]) = none := by
  simp [normalizeTags]

/-- Any other configured tag: nothing when its text is blank, else the name of its trimmed
text. -/
theorem normalizeTags_single_eq {t : Value} (notNull : t ≠ .null) :
    normalizeTags (.list [t]) =
      if Text.strip t.display = "" then none
      else some [Naming.tagName (.str (Text.strip t.display)) (.str "Api")] := by
  unfold normalizeTags
  cases t
  case null => exact absurd rfl notNull
  all_goals
    simp only [List.filter_cons, List.filter_nil, Bool.not_false, if_true, List.map_cons,
      List.map_nil]
    split <;> simp_all [List.eraseDups_cons]

/-- A configured list of one tag against the service of the operations whose first tag it is.
A null tag, or one whose text is blank, configures no list at all; any other tag configures the
name its text gives. For a true tag that is the service its operations are filed under, so the
list keeps exactly that service when it includes and drops exactly it when it excludes. -/
theorem normalizeTags_single (t d : Value) :
    (t = .null ∨ Text.strip t.display = "" → normalizeTags (.list [t]) = none) ∧
      (t ≠ .null → Text.strip t.display ≠ "" →
        normalizeTags (.list [t]) = some [Naming.tagName (.str t.display) d]) ∧
      (t.truthy = true → Text.strip t.display ≠ "" →
        normalizeTags (.list [t]) = some [Naming.tagName t d] ∧
        ∀ dropUnused name,
          ((Filter.ofTags (.list [t]) .null dropUnused).includes name = true ↔
            name = Naming.tagName t d) ∧
          ((Filter.ofTags .null (.list [t]) dropUnused).includes name = true ↔
            name ≠ Naming.tagName t d)) ∧
      ∀ (config : Config) (method : String) (entries : List (Value × Value)) (rest : List Value),
        (method = "parameters" || Text.startsWith method "x-") = false →
        Value.entryOf entries (.str "tags") = some (.list (t :: rest)) →
        Operations.serviceOf config (.str method, .map entries) =
          some (Naming.tagName t (.str config.defaultTag)) := by
  have named : t ≠ .null → Text.strip t.display ≠ "" →
      normalizeTags (.list [t]) = some [Naming.tagName (.str t.display) d] := by
    intro notNull notBlank
    rw [normalizeTags_single_eq notNull, if_neg notBlank,
      Naming.tagName_strip_of_ne notBlank _ d]
  refine ⟨?_, named, fun true_ notBlank => ?_, ?_⟩
  · rintro (rfl | blank)
    · exact normalizeTags_null_single
    · by_cases isNull : t = .null
      · subst isNull
        exact normalizeTags_null_single
      · rw [normalizeTags_single_eq isNull, if_pos blank]
  · have notNull : t ≠ .null := fun isNull => by rw [isNull] at true_; cases true_
    have sameName : Naming.tagName (.str t.display) d = Naming.tagName t d := by
      have notEmpty : t.display ≠ "" := fun empty => notBlank (by rw [empty]; decide)
      rw [Naming.tagName_of_truthy (by simpa [Value.truthy] using notEmpty),
        Naming.tagName_of_truthy true_]
      rfl
    have configured := named notNull notBlank
    rw [sameName] at configured
    refine ⟨configured, fun dropUnused name => ⟨?_, ?_⟩⟩
    · simp [Filter.ofTags, Filter.includes, configured, normalizeTags_null]
    · simp [Filter.ofTags, Filter.includes, configured, normalizeTags_null]
  · intro config method entries rest plain tagged
    simp [Operations.serviceOf, plain, Value.field, tagged, Operations.firstItem, Value.truthy]

/-- The configured tag `0` names the service `0`, while an operation whose first tag is `0` is
filed under the default service `Api`: a list including `[0]` leaves that service out. -/
theorem normalizeTags_names_false_tag_by_text :
    normalizeTags (.list [.int 0]) = some ["0"] ∧
      Naming.tagName (.int 0) (.str "Api") = "Api" ∧
      (Filter.ofTags (.list [.int 0]) .null true).includes "Api" = false := by
  refine ⟨?_, ?_, ?_⟩ <;> with_unfolding_all rfl

end ClientGen.Selection
