import ClientGen.Proofs.ClassNames
import ClientGen.Render.Basic

/-!
# File names of class names

The file stem of a class name is its kebab case: its characters lowercased, with a dash before
each character that follows a lowercase ASCII letter without being one. A class name is made of
word characters, none of them a dash, so erasing the dashes of its file stem gives back its key
(`kebab_erase_dashes`), and two class names with one file stem have one key
(`modelKey_eq_of_fileName_eq`). A class name made from a text and a capitalized word ends with
that word, and its file stem with the word's (`fileName_className_suffix`): that is how the
module and the configuration files are told apart from the fixed files.
-/
namespace ClientGen.Naming

open Text

theorem wordChar_ne_sigma {c : Char} (word : isWordChar c = true) : c ≠ 'Σ' := by
  rintro rfl
  exact absurd word (by decide)

theorem wordChar_ne_dash {c : Char} (word : isWordChar c = true) : c ≠ '-' := by
  rintro rfl
  exact absurd word (by decide)

theorem wordName_of_all {name : String} (checked : name.toList.all isWordChar = true) :
    WordName name :=
  fun c member => List.all_eq_true.mp checked c member

theorem wordName_append {a b : String} (wordA : WordName a) (wordB : WordName b) :
    WordName (a ++ b) := by
  intro c member
  rw [String.toList_append, List.mem_append] at member
  exact member.elim (wordA c) (wordB c)

/-- Word characters meet no final sigma: each is lowercased on its own. -/
theorem lowerFrom_of_word (before cs : List Char) (word : ∀ c ∈ cs, isWordChar c = true) :
    lowerFrom before cs = cs.flatMap lowerChar := by
  induction cs generalizing before with
  | nil => rfl
  | cons c rest ih =>
    simp only [lowerFrom, wordChar_ne_sigma (word c List.mem_cons_self), if_false,
      List.flatMap_cons]
    rw [ih (c :: before) fun d inRest => word d (List.mem_cons_of_mem c inRest)]

theorem modelKey_toList {name : String} (word : WordName name) :
    (modelKey name).toList = name.toList.flatMap lowerChar := by
  rw [modelKey, lower, String.toList_ofList, lowerFrom_of_word [] _ word]

/-- The key of a word name followed by another is the first key followed by the second. -/
theorem modelKey_append {a b : String} (wordA : WordName a) (wordB : WordName b) :
    modelKey (a ++ b) = modelKey a ++ modelKey b := by
  rw [← String.toList_inj, String.toList_append, modelKey_toList (wordName_append wordA wordB),
    modelKey_toList wordA, modelKey_toList wordB, String.toList_append, List.flatMap_append]

/-- Kebab case of word characters is their lowercase with dashes put in. -/
theorem kebab_erase_dashes (afterLower : Bool) (cs : List Char)
    (word : ∀ c ∈ cs, isWordChar c = true) :
    (kebab afterLower cs).filter (· != '-') = cs.flatMap lowerChar := by
  induction cs generalizing afterLower with
  | nil => rfl
  | cons c rest ih =>
    have lowered : (lowerChar c).filter (· != '-') = lowerChar c :=
      List.filter_eq_self.mpr fun y member => by
        simpa using wordChar_ne_dash (lowerChar_wordChar (word c List.mem_cons_self) y member)
    have dash : ∀ b : Bool, (if b then ['-'] else []).filter (· != '-') = [] := by
      intro b
      cases b <;> rfl
    simp only [kebab, List.filter_append, lowered, dash, List.nil_append, List.flatMap_cons,
      ih _ fun d inRest => word d (List.mem_cons_of_mem c inRest)]

/-- Two word names with one file stem have one key. -/
theorem modelKey_eq_of_fileName_eq {a b : String} (wordA : WordName a) (wordB : WordName b)
    (same : fileName a = fileName b) : modelKey a = modelKey b := by
  have erased := congrArg (fun s : String => s.toList.filter (· != '-')) same
  simp only [fileName, String.toList_ofList, kebab_erase_dashes false _ wordA,
    kebab_erase_dashes false _ wordB] at erased
  rw [← String.toList_inj, modelKey_toList wordA, modelKey_toList wordB, erased]

/-- Kebab case of word characters holds word characters and dashes. -/
theorem mem_kebab {afterLower : Bool} {cs : List Char} (word : ∀ c ∈ cs, isWordChar c = true)
    {y : Char} (member : y ∈ kebab afterLower cs) : isWordChar y = true ∨ y = '-' := by
  induction cs generalizing afterLower with
  | nil => cases member
  | cons c rest ih =>
    simp only [kebab, List.mem_append] at member
    rcases member with (dash | lowered) | later
    · split at dash
      · exact .inr (List.mem_singleton.mp dash)
      · cases dash
    · exact .inl (lowerChar_wordChar (word c List.mem_cons_self) y lowered)
    · exact ih (fun d inRest => word d (List.mem_cons_of_mem c inRest)) later

/-- The file stem of a word name has no slash: it names a file, not a folder. -/
theorem slash_not_mem_fileName {name : String} (word : WordName name) :
    '/' ∉ (fileName name).toList := by
  intro member
  rw [fileName, String.toList_ofList] at member
  rcases mem_kebab word member with isWord | isDash
  · exact absurd isWord (by decide)
  · exact absurd isDash (by decide)

/-! ## Names that end with a word -/

/-- Word characters after a kept one are kept as they are. -/
theorem classChars_of_word (acc : List Char) (nonempty : acc ≠ []) (ws : List Char)
    (word : ∀ c ∈ ws, isWordChar c = true) : classChars acc false ws = acc ++ ws := by
  induction ws generalizing acc with
  | nil => simp [classChars]
  | cons c rest ih =>
    have kept : (false || acc.isEmpty) = false := by simpa using nonempty
    simp only [classChars, word c List.mem_cons_self, Bool.not_true, Bool.false_eq_true,
      if_false, kept]
    rw [ih (acc ++ [c]) (by simp) fun d inRest => word d (List.mem_cons_of_mem c inRest)]
    simp

/-- A word that starts with a capital letter stays at the end of the class characters of a name that
ends with it. The capital is kept as it is, whether or not it starts a new part. -/
theorem classChars_append_capital (acc : List Char) (upNext : Bool) (xs : List Char) {c : Char}
    {rest : List Char} (capital : asciiUpper c = c) (word : ∀ d ∈ c :: rest, isWordChar d = true) :
    ∃ front, classChars acc upNext (xs ++ c :: rest) = front ++ c :: rest := by
  induction xs generalizing acc upNext with
  | nil =>
    have restWord : ∀ d ∈ rest, isWordChar d = true :=
      fun d inRest => word d (List.mem_cons_of_mem c inRest)
    refine ⟨acc, ?_⟩
    simp only [List.nil_append, classChars, word c List.mem_cons_self, Bool.not_true,
      Bool.false_eq_true, if_false, capital, ite_self]
    rw [classChars_of_word (acc ++ [c]) (by simp) rest restWord]
    simp
  | cons x xs ih =>
    simp only [List.cons_append, classChars]
    split
    · exact ih acc true
    · split
      · exact ih _ false
      · exact ih _ false

/-- The class name of a text followed by a capitalized word ends with that word. -/
theorem className_append_capital (s w : String) {c : Char} {rest : List Char}
    (shape : w.toList = c :: rest) (capital : asciiUpper c = c) (word : WordName w) :
    ∃ front, (className (s ++ w)).toList = front ++ w.toList := by
  have wordChars : ∀ d ∈ c :: rest, isWordChar d = true := by
    rw [← shape]
    exact word
  obtain ⟨front, chars⟩ := classChars_append_capital [] false s.toList capital wordChars
  unfold className
  rw [String.toList_append, shape, chars]
  cases front with
  | nil =>
    dsimp only [List.nil_append]
    split
    · exact ⟨['_'], by simp⟩
    · exact ⟨[], by simp⟩
  | cons d ds =>
    dsimp only [List.cons_append]
    split
    · exact ⟨'_' :: d :: ds, by simp⟩
    · exact ⟨d :: ds, by simp⟩

/-- Kebab case goes through a list in one pass, so the kebab case of two lists joined is that
of the first followed by that of the second, read after what the first ends with. -/
theorem kebab_append (afterLower : Bool) (xs ys : List Char) :
    ∃ after, kebab afterLower (xs ++ ys) = kebab afterLower xs ++ kebab after ys := by
  induction xs generalizing afterLower with
  | nil => exact ⟨afterLower, rfl⟩
  | cons x xs ih =>
    obtain ⟨after, rest⟩ := ih (isAsciiLower x)
    exact ⟨after, by simp [kebab, rest]⟩

/-- The file stem of the class name of a text followed by a capitalized word ends with the word's
file stem. A capital letter gets at most a dash in front of it. -/
theorem fileName_className_suffix (s w : String) {c : Char} {rest : List Char}
    (shape : w.toList = c :: rest) (capital : asciiUpper c = c) (notLower : isAsciiLower c = false)
    (word : WordName w) :
    (fileName w).toList <:+ (fileName (className (s ++ w))).toList := by
  obtain ⟨front, named⟩ := className_append_capital s w shape capital word
  obtain ⟨after, joined⟩ := kebab_append false front (c :: rest)
  simp only [fileName, String.toList_ofList, named, shape, joined]
  refine List.IsSuffix.trans ?_ (List.suffix_append _ _)
  simp only [kebab, notLower, Bool.not_false, Bool.true_and, Bool.and_false, Bool.false_eq_true,
    if_false, List.nil_append]
  rw [List.append_assoc]
  exact List.suffix_append _ _

end ClientGen.Naming
