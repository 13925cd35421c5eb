import ClientGen.Text.CaseTable
import ClientGen.Text.ClassTable

/-!
# Character classes and case maps

Lookups in the Unicode tables, and the case maps of whole texts built on them.

* `lowerChar` and `upperChar` give a character's full case partner, which can be longer
  than one character (`ß` becomes `SS`).
* `lower` maps a whole text and writes a capital sigma as `ς` where it ends a word: after a
  cased letter and before none, looking past case-ignorable characters on both sides.
-/
namespace ClientGen.Text

/-- Whether `c` lies in one of the sorted, disjoint closed ranges `rs`. -/
def inRanges (rs : Array (Nat × Nat)) (c : Nat) : Bool :=
  search 0 rs.size
where
  /-- Binary search between the indices `lo` (included) and `hi` (excluded). -/
  search (lo hi : Nat) : Bool :=
    if lo < hi then
      let mid := (lo + hi) / 2
      match rs[mid]? with
      | some (a, b) =>
        if c < a then search lo mid
        else if b < c then search (mid + 1) hi
        else true
      | none => false
    else false
  termination_by hi - lo

/-- The partner of `c` in a table of runs, if a run holds it. -/
def runPartner (runs : Array CaseRun) (c : Nat) : Option Nat :=
  search 0 runs.size
where
  /-- Binary search between the indices `lo` (included) and `hi` (excluded). -/
  search (lo hi : Nat) : Option Nat :=
    if lo < hi then
      let mid := (lo + hi) / 2
      match runs[mid]? with
      | some r =>
        if c < r.lo then search lo mid
        else if r.hi < c then search (mid + 1) hi
        else if (c - r.lo) % r.step = 0 then some ((c : Int) + r.delta).toNat
        else none
      | none => none
    else none
  termination_by hi - lo

/-- The case partner of `c` under a table of runs and a table of longer mappings; a
character without an entry is its own partner. -/
def partner (runs : Array CaseRun) (special : Array (Nat × List Nat)) (c : Char) :
    List Char :=
  match special.find? (fun entry => entry.1 = c.toNat) with
  | some (_, target) => target.map Char.ofNat
  | none =>
    match runPartner runs c.toNat with
    | some p => [Char.ofNat p]
    | none => [c]

/-- The full lowercase form of one character. -/
def lowerChar (c : Char) : List Char := partner lowerRuns lowerSpecial c

/-- The full uppercase form of one character. -/
def upperChar (c : Char) : List Char := partner upperRuns upperSpecial c

/-- A digit of some script: a character with a decimal or digit value. -/
def isDigit (c : Char) : Bool := inRanges digitRanges c.toNat

/-- The range of `rs` holding `c`, if any. -/
def rangeOf (rs : Array (Nat × Nat)) (c : Nat) : Option (Nat × Nat) :=
  search 0 rs.size
where
  /-- Binary search between the indices `lo` (included) and `hi` (excluded). -/
  search (lo hi : Nat) : Option (Nat × Nat) :=
    if lo < hi then
      let mid := (lo + hi) / 2
      match rs[mid]? with
      | some (a, b) =>
        if c < a then search lo mid
        else if b < c then search (mid + 1) hi
        else some (a, b)
      | none => none
    else none
  termination_by hi - lo

/-- The value of a decimal digit of any script (`٣` is 3). -/
def decimalValue (c : Char) : Option Nat :=
  (rangeOf decimalRanges c.toNat).map fun (a, _) => (c.toNat - a) % 10

/-- White space, as `strip` and `split` understand it. -/
def isBlank (c : Char) : Bool := inRanges blankRanges c.toNat

/-- A character that quoting leaves as it is. -/
def isPrintable (c : Char) : Bool := inRanges printableRanges c.toNat

/-- A character that the sigma rule looks past. -/
def isCaseIgnorable (c : Char) : Bool := inRanges caseIgnorableRanges c.toNat

/-- A cased character that the sigma rule does not look past. -/
def isCased (c : Char) : Bool := inRanges casedRanges c.toNat

/-- Whether the nearest character that is not case-ignorable is cased; the list is read
from the nearest character outwards. -/
def casedNext : List Char → Bool
  | [] => false
  | c :: rest => if isCaseIgnorable c then casedNext rest else isCased c

/-- Lowercase of the characters `after`, where `before` holds the characters already
passed, nearest first. -/
def lowerFrom : List Char → List Char → List Char
  | _, [] => []
  | before, c :: after =>
    let mapped :=
      if c = 'Σ' then [if casedNext before && !casedNext after then 'ς' else 'σ']
      else lowerChar c
    mapped ++ lowerFrom (c :: before) after

/-- The lowercase form of a text, with the final-sigma rule. -/
def lower (s : String) : String := String.ofList (lowerFrom [] s.toList)

/-- The uppercase form of a text, character by character. -/
def upper (s : String) : String := String.ofList (s.toList.flatMap upperChar)

/-- Lowercase of each character on its own, with no final-sigma rule. -/
def lowerEach (s : String) : String := String.ofList (s.toList.flatMap lowerChar)

/-- A non-empty text of digits of any script. -/
def allDigits (s : String) : Bool := !s.isEmpty && s.toList.all isDigit

/-- An ASCII lowercase letter. -/
def isAsciiLower (c : Char) : Bool := 'a' ≤ c && c ≤ 'z'

/-- An ASCII letter or digit. -/
def isAsciiAlnum (c : Char) : Bool := c.isAlphanum

/-- An ASCII letter, digit or underscore: a character of a word. -/
def isWordChar (c : Char) : Bool := c.isAlphanum || c = '_'

/-- ASCII uppercase of a character; other characters stay. -/
def asciiUpper (c : Char) : Char := c.toUpper

/-- ASCII uppercase of the first character of a text. -/
def capitalizeAscii (s : String) : String :=
  match s.toList with
  | [] => ""
  | c :: rest => String.ofList (c.toUpper :: rest)

end ClientGen.Text
