import ClientGen.Text.Case

/-!
# Cutting, splitting and replacing text

Operations on texts as lists of characters: trimming white space or one character at the
ends, splitting at every occurrence of a separator, replacing every occurrence of a
pattern from left to right, and finding a pattern.
-/
namespace ClientGen.Text

/-- Drops the characters satisfying `p` at both ends. -/
def trimBy (p : Char → Bool) (s : String) : String :=
  String.ofList ((s.toList.dropWhile p).reverse.dropWhile p).reverse

/-- A text with the white space at both ends removed. -/
def strip (s : String) : String := trimBy isBlank s

/-- A text with the white space at its end removed. -/
def stripEnd (s : String) : String := String.ofList (s.toList.reverse.dropWhile isBlank).reverse

/-- A text with the character `c` removed from both ends. -/
def stripChar (c : Char) (s : String) : String := trimBy (· = c) s

/-- Whether `pat` occurs in `s`; the empty pattern occurs everywhere. -/
def occurs (pat : List Char) : List Char → Bool
  | [] => pat.isEmpty
  | c :: rest => pat.isPrefixOf (c :: rest) || occurs pat rest

/-- Whether the text `pat` occurs in the text `s`. -/
def contains (s pat : String) : Bool := occurs pat.toList s.toList

/-- The index of the first occurrence of `pat` in `s`. -/
def findIndex? (pat : List Char) : List Char → Option Nat
  | [] => if pat.isEmpty then some 0 else none
  | c :: rest =>
    if pat.isPrefixOf (c :: rest) then some 0 else (findIndex? pat rest).map (· + 1)

/-- Splits `s` at every occurrence of the non-empty separator `sep`, keeping empty
pieces; `acc` holds the current piece reversed. -/
def splitAux (sep : List Char) (acc : List Char) : List Char → List (List Char)
  | [] => [acc.reverse]
  | c :: rest =>
    if sep ≠ [] && sep.isPrefixOf (c :: rest) then
      acc.reverse :: splitAux sep [] ((c :: rest).drop sep.length)
    else splitAux sep (c :: acc) rest
  termination_by s => s.length
  decreasing_by
    all_goals simp_wf
    all_goals
      first
      | omega
      | (have : sep.length ≠ 0 := by
           intro h; simp_all [List.length_eq_zero_iff]
         omega)

/-- The pieces of `s` between occurrences of `sep`; a text without it is one piece. -/
def splitOn (s sep : String) : List String :=
  (splitAux sep.toList [] s.toList).map String.ofList

/-- Every occurrence of `pat` replaced by `rep`, from left to right; an empty pattern
changes nothing. -/
def replaceAux (pat rep : List Char) : List Char → List Char
  | [] => []
  | c :: rest =>
    if pat ≠ [] && pat.isPrefixOf (c :: rest) then
      rep ++ replaceAux pat rep ((c :: rest).drop pat.length)
    else c :: replaceAux pat rep rest
  termination_by s => s.length
  decreasing_by
    all_goals simp_wf
    all_goals
      first
      | omega
      | (have : pat.length ≠ 0 := by
           intro h; simp_all [List.length_eq_zero_iff]
         omega)

/-- The text with every occurrence of `pat` replaced by `rep`. -/
def replace (s pat rep : String) : String :=
  String.ofList (replaceAux pat.toList rep.toList s.toList)

/-- The part of `s` after the last `c`, or all of `s` when it has none. -/
def afterLast (c : Char) (s : String) : String :=
  String.ofList (s.toList.reverse.takeWhile (· ≠ c)).reverse

/-- Whether `s` starts with `pre`. -/
def startsWith (s pre : String) : Bool := pre.toList.isPrefixOf s.toList

/-- Whether `s` ends with `suf`. -/
def endsWith (s suf : String) : Bool := suf.toList.reverse.isPrefixOf s.toList.reverse

/-- The text without its first `n` characters. -/
def dropChars (s : String) (n : Nat) : String := String.ofList (s.toList.drop n)

/-- The first `n` characters of a text. -/
def takeChars (s : String) (n : Nat) : String := String.ofList (s.toList.take n)

/-- The lines of a text joined again after removing the white space at each line's end. -/
def stripLineEnds (s : String) : String :=
  "\n".intercalate ((splitOn s "\n").map stripEnd)

end ClientGen.Text
