import ClientGen.Naming
import ClientGen.TypeExpr
import ClientGen.Proofs.Loops

/-!
# Class names and their keys

Class names are made of ASCII letters, digits and underscores, and so are their keys. A class
name is an identifier, an ASCII letter or an underscore followed by such characters, exactly
when the name it is made from has a word character; otherwise it is empty, and the file stem of
an identifier starts with a letter or an underscore too (`className_isClassIdentifier_iff`).
A stripped type name whose key is the key of a class name holds none of the
characters that wrappers are made of (spaces, `|`, `<` and `[`), and stripping it again
changes nothing (`stripWrappers_stable`). That is what lets the plain names of a union and
the names of its members find the same models.
-/
namespace ClientGen.Naming

/-- A name made of ASCII letters, digits and underscores, as every class name is. -/
def WordName (name : String) : Prop := ∀ c ∈ name.toList, Text.isWordChar c = true

/-- Word characters are ASCII: each of their classes ends below 128, at `Z`, `z`, `9` and `_`. -/
theorem wordChar_lt {c : Char} (word : Text.isWordChar c = true) : c.toNat < 128 := by
  delta Text.isWordChar Char.isAlphanum Char.isAlpha Char.isUpper Char.isLower Char.isDigit at word
  simp only [Bool.or_eq_true, Bool.and_eq_true, decide_eq_true_eq] at word
  rcases word with ((⟨_, upper⟩ | ⟨_, lower⟩) | ⟨_, digit⟩) | underscore
  · exact Nat.lt_of_le_of_lt (UInt32.le_iff_toNat_le.mp upper) (by decide)
  · exact Nat.lt_of_le_of_lt (UInt32.le_iff_toNat_le.mp lower) (by decide)
  · exact Nat.lt_of_le_of_lt (UInt32.le_iff_toNat_le.mp digit) (by decide)
  · subst underscore
    decide

/-- A fact of every word character, checked as one computation over the ASCII characters. -/
theorem wordChar_all {q : Char → Bool}
    (checked : (List.range 128).all (fun n => !Text.isWordChar (Char.ofNat n) ||
      q (Char.ofNat n)) = true) {c : Char} (word : Text.isWordChar c = true) : q c = true := by
  have atCode := List.all_eq_true.mp checked c.toNat (List.mem_range.mpr (wordChar_lt word))
  rw [Char.ofNat_toNat, word, Bool.not_true, Bool.false_or] at atCode
  exact atCode

theorem wordChar_toUpper {c : Char} (word : Text.isWordChar c = true) :
    Text.isWordChar c.toUpper = true :=
  @wordChar_all (fun c => Text.isWordChar c.toUpper) (by decide) c word

theorem lowerChar_wordChar {c : Char} (word : Text.isWordChar c = true) :
    ∀ y ∈ Text.lowerChar c, Text.isWordChar y = true :=
  List.all_eq_true.mp
    (@wordChar_all (fun c => (Text.lowerChar c).all Text.isWordChar) (by decide +kernel) c word)

theorem classChars_wordChar (acc : List Char) (upNext : Bool) (cs : List Char)
    (accWord : ∀ c ∈ acc, Text.isWordChar c = true) :
    ∀ c ∈ classChars acc upNext cs, Text.isWordChar c = true := by
  induction cs generalizing acc upNext with
  | nil => exact accWord
  | cons c rest ih =>
    have appended : ∀ d, Text.isWordChar d = true →
        ∀ x ∈ acc ++ [d], Text.isWordChar x = true := by
      intro d word x member
      rcases List.mem_append.mp member with old | new
      · exact accWord x old
      · exact List.mem_singleton.mp new ▸ word
    unfold classChars
    by_cases word : Text.isWordChar c = true
    · simp only [word, Bool.not_true, Bool.false_eq_true, if_false]
      split
      · exact ih _ false (appended _ (wordChar_toUpper word))
      · exact ih _ false (appended c word)
    · simp only [word, Bool.not_false, if_true]
      exact ih acc true accWord

theorem className_wordName (name : String) : WordName (className name) := by
  have chars := classChars_wordChar [] false name.toList (by simp)
  unfold className
  dsimp only
  split
  · split
    · intro c member
      simp only [String.toList_ofList, List.mem_cons] at member
      rcases member with rfl | later
      · decide
      · exact chars c later
    · simpa [WordName] using chars
  · simp [WordName]

theorem classNameOf_wordName {name : Value} {cls : String}
    (named : classNameOf name = .ok cls) : WordName cls := by
  obtain ⟨text, _, built⟩ := except_bind_ok named
  cases built
  exact className_wordName text

/-! ## Class names are identifiers

A class name is a valid identifier exactly when the name it is made from has a word character
at all: the first word character kept is capitalized, a digit gets an underscore in front, and
what follows are word characters. A name without word characters gives the empty class name,
which is no identifier. -/

/-- A character that can start an identifier: an ASCII letter or an underscore. -/
def isClassNameStart (c : Char) : Bool := c.isAlpha || c = '_'

/-- A class identifier: an ASCII letter or an underscore, then ASCII letters, digits and
underscores. -/
def isClassIdentifier (name : String) : Bool :=
  match name.toList with
  | c :: rest => isClassNameStart c && rest.all Text.isWordChar
  | [] => false

/-- Each word character of a name gives one character of its class name. -/
theorem length_classChars (acc : List Char) (upNext : Bool) (cs : List Char) :
    (classChars acc upNext cs).length = acc.length + (cs.filter Text.isWordChar).length := by
  induction cs generalizing acc upNext with
  | nil => simp [classChars]
  | cons c rest ih =>
    unfold classChars
    by_cases word : Text.isWordChar c = true
    · simp only [word, Bool.not_true, Bool.false_eq_true, if_false, List.filter_cons_of_pos word,
        List.length_cons]
      split <;> simp only [ih, List.length_append, List.length_singleton] <;> omega
    · simp only [word, Bool.not_false, if_true, List.filter_cons_of_neg word]
      exact ih acc true

theorem classChars_eq_nil_iff (cs : List Char) :
    classChars [] false cs = [] ↔ ∀ c ∈ cs, Text.isWordChar c = false := by
  rw [← List.length_eq_zero_iff, length_classChars, List.length_nil, Nat.zero_add,
    List.length_eq_zero_iff, List.filter_eq_nil_iff]
  simp

/-- A word character that is no digit starts an identifier. -/
theorem classNameStart_of_word {c : Char} (word : Text.isWordChar c = true)
    (notDigit : Text.isDigit c = false) : isClassNameStart c = true :=
  have checked :=
    @wordChar_all (fun c => Text.isDigit c || isClassNameStart c) (by decide +kernel) c word
  by simpa [notDigit] using checked

/-- The lowercase of a character that starts an identifier is one character that does too. -/
theorem lowerChar_classNameStart {c : Char} (word : Text.isWordChar c = true)
    (start : isClassNameStart c = true) :
    ∃ e, Text.lowerChar c = [e] ∧ isClassNameStart e = true := by
  have checked := @wordChar_all (fun c => !isClassNameStart c ||
    ((Text.lowerChar c).length == 1 && (Text.lowerChar c).all isClassNameStart))
    (by decide +kernel) c word
  simp only [start, Bool.not_true, Bool.false_or, Bool.and_eq_true, beq_iff_eq] at checked
  obtain ⟨one, allStart⟩ := checked
  obtain ⟨e, single⟩ := List.length_eq_one_iff.mp one
  rw [single] at allStart
  exact ⟨e, single, by simpa using allStart⟩

/-- The class name of a name with a word character starts an identifier and goes on with word
characters: its first kept character, with an underscore in front when it is a digit. -/
theorem className_cons {name : String} (hasWord : ∃ c ∈ name.toList, Text.isWordChar c = true) :
    ∃ d rest, (className name).toList = d :: rest ∧ isClassNameStart d = true ∧
      ∀ e ∈ rest, Text.isWordChar e = true := by
  have chars := classChars_wordChar [] false name.toList (by simp)
  unfold className
  dsimp only
  cases kept : classChars [] false name.toList with
  | nil =>
    obtain ⟨c, member, word⟩ := hasWord
    rw [(classChars_eq_nil_iff _).mp kept c member] at word
    cases word
  | cons d rest =>
    rw [kept] at chars
    have firstWord : Text.isWordChar d = true := chars d List.mem_cons_self
    dsimp only
    split
    · refine ⟨'_', d :: rest, by simp, by decide, chars⟩
    · next notDigit =>
      refine ⟨d, rest, by simp, classNameStart_of_word firstWord (by simpa using notDigit), ?_⟩
      exact fun e member => chars e (List.mem_cons_of_mem d member)

/-- The file stem of a word name that starts an identifier starts one too. No dash goes before the
first character. -/
theorem fileName_cons {name : String} {d : Char} {rest : List Char}
    (shape : name.toList = d :: rest) (word : Text.isWordChar d = true)
    (start : isClassNameStart d = true) :
    ∃ e more, (fileName name).toList = e :: more ∧ isClassNameStart e = true := by
  obtain ⟨e, lowered, lowerStart⟩ := lowerChar_classNameStart word start
  refine ⟨e, kebab (Text.isAsciiLower d) rest, ?_, lowerStart⟩
  simp [fileName, shape, kebab, lowered]

/-- The class name of a name is an identifier exactly when the name has a word character;
without one it is empty. The file stem of an identifier class name starts with a letter or
an underscore, so it is not empty and starts with no digit. -/
theorem className_isClassIdentifier_iff (name : String) :
    (isClassIdentifier (className name) = true ↔
        ∃ c ∈ name.toList, Text.isWordChar c = true) ∧
      ((∀ c ∈ name.toList, Text.isWordChar c = false) → className name = "") ∧
      ((∃ c ∈ name.toList, Text.isWordChar c = true) →
        ∃ e more, (fileName (className name)).toList = e :: more ∧
          isClassNameStart e = true) := by
  have empty : (∀ c ∈ name.toList, Text.isWordChar c = false) → className name = "" := by
    intro noWord
    unfold className
    rw [(classChars_eq_nil_iff _).mpr noWord]
  refine ⟨⟨fun identifier => ?_, fun hasWord => ?_⟩, empty, fun hasWord => ?_⟩
  · by_cases hasWord : ∃ c ∈ name.toList, Text.isWordChar c = true
    · exact hasWord
    · simp only [not_exists, not_and, Bool.not_eq_true] at hasWord
      rw [empty hasWord] at identifier
      cases identifier
  · obtain ⟨d, rest, shape, start, word⟩ := className_cons hasWord
    simp [isClassIdentifier, shape, start, List.all_eq_true.mpr word]
  · obtain ⟨d, rest, shape, start, word⟩ := className_cons hasWord
    have firstWord : Text.isWordChar d = true := by
      simpa using className_wordName name d (by simp [shape])
    exact fileName_cons shape firstWord start

/-- A name of separators only gives the empty class name, which is no identifier. -/
theorem className_of_separators_is_not_identifier :
    className "-" = "" ∧ isClassIdentifier (className "-") = false := by
  decide

/-! ## Keys -/

/-- The lowercase of word characters is made of word characters. -/
theorem lowerFrom_wordChar (before cs : List Char) (word : ∀ c ∈ cs, Text.isWordChar c = true) :
    ∀ y ∈ Text.lowerFrom before cs, Text.isWordChar y = true := by
  induction cs generalizing before with
  | nil => simp [Text.lowerFrom]
  | cons c rest ih =>
    have notSigma : c ≠ 'Σ' := fun sigma => by
      have cWord := word c (by simp)
      rw [sigma] at cWord
      exact absurd cWord (by decide)
    intro y member
    simp only [Text.lowerFrom, notSigma, if_false, List.mem_append] at member
    rcases member with here | later
    · exact lowerChar_wordChar (word c (by simp)) y here
    · exact ih (c :: before) (fun d inRest => word d (List.mem_cons_of_mem c inRest)) y later

/-- A character that is its own lowercase stays in the lowercase of a text. -/
theorem mem_lowerFrom {x : Char} (own : Text.lowerChar x = [x]) (notSigma : x ≠ 'Σ')
    (before cs : List Char) (member : x ∈ cs) : x ∈ Text.lowerFrom before cs := by
  induction cs generalizing before with
  | nil => cases member
  | cons c rest ih =>
    simp only [Text.lowerFrom, List.mem_append]
    rcases List.mem_cons.mp member with rfl | later
    · left
      simp [notSigma, own]
    · exact .inr (ih (c :: before) later)

theorem keyOf_wordName_wordChar {cls : String} (word : WordName cls) :
    ∀ y ∈ (modelKey cls).toList, Text.isWordChar y = true := by
  simpa [modelKey, Text.lower] using lowerFrom_wordChar [] cls.toList word

/-! ## Stripping a stripped name -/

/-- The characters wrappers are made of. -/
def wrapperChars : List Char := [' ', '|', '<', '[']

/-- Wrapper characters are their own lowercase, and no word characters. -/
theorem wrapperChars_spec {c : Char} (wrapper : c ∈ wrapperChars) :
    Text.lowerChar c = [c] ∧ c ≠ 'Σ' ∧ Text.isWordChar c = false := by
  have checked : wrapperChars.all (fun c => Text.lowerChar c == [c] && c != 'Σ' &&
      !Text.isWordChar c) = true := by
    decide +kernel
  simpa [and_assoc] using List.all_eq_true.mp checked c wrapper

theorem dropNullMarkers_of_not_mem (cs : List Char) (noBar : '|' ∉ cs) :
    TypeExpr.dropNullMarkers cs = cs := by
  unfold TypeExpr.dropNullMarkers
  split
  · simp at noBar
  · simp at noBar
  · rfl

theorem dropArrayWrappers_of_not_mem (cs : List Char) (noAngle : '<' ∉ cs) :
    TypeExpr.dropArrayWrappers cs = cs := by
  unfold TypeExpr.dropArrayWrappers
  split
  · simp at noAngle
  · rfl

theorem findIndex?_of_not_mem (cs : List Char) (noBracket : '[' ∉ cs) :
    Text.findIndex? ['['] cs = none := by
  induction cs with
  | nil => rfl
  | cons c rest ih =>
    have other : c ≠ '[' := fun same => noBracket (same ▸ List.mem_cons_self)
    have notPrefix : (['['].isPrefixOf (c :: rest)) = false := by
      simp [List.isPrefixOf, Ne.symm other]
    simp only [Text.findIndex?, notPrefix, Bool.false_eq_true, if_false,
      ih (fun inRest => noBracket (List.mem_cons_of_mem c inRest)), Option.map_none]

/-- A name without wrapper characters is its own stripped form. -/
theorem stripWrappers_of_plain (s : String) (plain : ∀ c ∈ s.toList, c ∉ wrapperChars) :
    stripWrappers s false = s := by
  have noSpace : s.toList.filter (· ≠ ' ') = s.toList :=
    List.filter_eq_self.mpr fun c member => by
      simpa using fun same => plain c member (by simp [same, wrapperChars])
  have noBar : '|' ∉ s.toList := fun member => plain '|' member (by simp [wrapperChars])
  have noAngle : '<' ∉ s.toList := fun member => plain '<' member (by simp [wrapperChars])
  have noBracket : '[' ∉ s.toList := fun member => plain '[' member (by simp [wrapperChars])
  unfold stripWrappers
  simp only [noSpace, dropNullMarkers_of_not_mem _ noBar, dropArrayWrappers_of_not_mem _ noAngle,
    findIndex?_of_not_mem _ noBracket, String.ofList_toList, Bool.or_false]
  split <;> rfl

/-- A stripped name whose key is the key of a class name is stripped already. A wrapper character
would stay in the key, which holds word characters only. -/
theorem stripWrappers_stable {name cls : String} (word : WordName cls)
    (sameKey : modelKey (stripWrappers name false) = modelKey cls) :
    stripWrappers (stripWrappers name false) false = stripWrappers name false := by
  apply stripWrappers_of_plain
  intro c member wrapper
  obtain ⟨own, notSigma, notWord⟩ := wrapperChars_spec wrapper
  have inKey : c ∈ (modelKey (stripWrappers name false)).toList := by
    simpa [modelKey, Text.lower] using mem_lowerFrom own notSigma [] _ member
  rw [sameKey] at inKey
  rw [keyOf_wordName_wordChar word c inKey] at notWord
  cases notWord

end ClientGen.Naming
