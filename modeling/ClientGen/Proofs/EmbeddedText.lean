import Mathlib.Data.List.Basic
import ClientGen.Api.Models
import ClientGen.Render.Models
import ClientGen.Proofs.Loops

/-!
# Text embedded in the generated code

Property names, string literal types, enum constants and descriptions go into the generated
TypeScript as the document spells them. This module reads them back the way a TypeScript
compiler does. `Script.readString` follows the string-literal grammar of ECMAScript in strict
mode: escapes, line continuations, and no raw line feed or carriage return. `Script.closings`
counts the `*/` sequences, each of which would end a block comment.

The writers escape backslashes and quotes but no line terminator, so a literal reads back as
its text when the text has neither a line feed nor a carriage return (`readString_escaped`).
Enum constants escape their quotes only, so their literals read back when the text has no
backslash either. Comments escape nothing: a description block holds, besides its own closing
`*/`, every `*/` of the stripped description (`docBlock_closings`).
-/
namespace ClientGen

namespace Text

theorem toList_replace (s pat rep : String) :
    (replace s pat rep).toList = replaceAux pat.toList rep.toList s.toList := by
  simp [replace]

/-- Replacing a one-character pattern rewrites the text one character at a time. -/
theorem replaceAux_single (p : Char) (rep : List Char) :
    ∀ cs : List Char, replaceAux [p] rep cs = cs.flatMap fun c => if c = p then rep else [c]
  | [] => by simp [replaceAux]
  | c :: rest => by
    rw [replaceAux]
    by_cases same : c = p
    · subst same
      simp [replaceAux_single c rep rest]
    · simp [same, Ne.symm same, replaceAux_single p rep rest]

theorem splitAux_ne_nil (sep : List Char) : ∀ (acc cs : List Char), splitAux sep acc cs ≠ []
  | acc, [] => by simp [splitAux]
  | acc, c :: rest => by
    rw [splitAux]
    split
    · simp
    · exact splitAux_ne_nil sep (c :: acc) rest

/-- Splitting at a one-character separator and joining the pieces with it gives back the
text. -/
theorem intercalate_splitAux_single (sep : Char) :
    ∀ (acc cs : List Char), [sep].intercalate (splitAux [sep] acc cs) = acc.reverse ++ cs
  | acc, [] => by simp [splitAux]
  | acc, c :: rest => by
    have step : [sep].isPrefixOf (c :: rest) = (sep == c) := by simp [List.isPrefixOf]
    rw [splitAux]
    simp only [ne_eq, List.cons_ne_nil, not_false_eq_true, decide_true, Bool.true_and, step,
      List.length_singleton, List.drop_succ_cons, List.drop_zero]
    by_cases atSep : c = sep
    · subst atSep
      obtain ⟨piece, more, split⟩ := List.exists_cons_of_ne_nil (splitAux_ne_nil [c] [] rest)
      have rejoined := intercalate_splitAux_single c [] rest
      rw [split] at rejoined
      rw [beq_self_eq_true, if_pos rfl, split, List.intercalate_cons_cons, rejoined]
      simp
    · have differs : (sep == c) = false := beq_false_of_ne (Ne.symm atSep)
      rw [differs, if_neg Bool.false_ne_true, intercalate_splitAux_single sep (c :: acc) rest]
      simp

theorem intercalate_splitOn_single (s : String) (sep : Char) :
    [sep].intercalate ((splitOn s (String.singleton sep)).map String.toList) = s.toList := by
  simp only [splitOn, String.toList_singleton, List.map_map]
  have back : (String.toList ∘ String.ofList) = id := by
    funext cs
    simp
  rw [back, List.map_id, intercalate_splitAux_single sep [] s.toList]
  simp

end Text

namespace Script

/-! ## Reading a string literal -/

/-- A line terminator of ECMAScript: line feed, carriage return, line separator or paragraph
separator. -/
def isLineTerminator (c : Char) : Bool :=
  c = '\n' || c = '\r' || c = '\u2028' || c = '\u2029'

/-- The character a single-character escape stands for. -/
def singleEscape? : Char → Option Char
  | '\'' => some '\''
  | '"' => some '"'
  | '\\' => some '\\'
  | 'b' => some '\x08'
  | 'f' => some '\x0c'
  | 'n' => some '\n'
  | 'r' => some '\r'
  | 't' => some '\t'
  | 'v' => some '\x0b'
  | _ => none

/-- The value of a hexadecimal digit. -/
def hexDigit? (c : Char) : Option Nat :=
  if '0' ≤ c ∧ c ≤ '9' then some (c.toNat - '0'.toNat)
  else if 'a' ≤ c ∧ c ≤ 'f' then some (c.toNat - 'a'.toNat + 10)
  else if 'A' ≤ c ∧ c ≤ 'F' then some (c.toNat - 'A'.toNat + 10)
  else none

/-- The number that hexadecimal digits spell. -/
def hexValue? (cs : List Char) : Option Nat :=
  cs.foldlM (fun acc c => (hexDigit? c).map (acc * 16 + ·)) 0

/-- The character of a code point, unless it is a surrogate or out of range: a string value
with a lone surrogate is no text of characters. -/
def codePoint? (n : Nat) : Option Char := if n.isValidChar then some (Char.ofNat n) else none

/-- The reading `r` with `c` put in front of its value. -/
def prepend (c : Char) (r : Option (List Char × List Char)) : Option (List Char × List Char) :=
  r.map fun (value, rest) => (c :: value, rest)

mutual
/-- Reads the body of a string literal quoted by `q`, up to and including the closing quote:
the value read and the characters after the literal, or nothing when the body breaks the
grammar. -/
def readString (q : Char) : List Char → Option (List Char × List Char)
  | [] => none
  | '\\' :: rest => readEscape q rest
  | c :: rest =>
    if c = q then some ([], rest)
    else if c = '\n' || c = '\r' then none
    else prepend c (readString q rest)

/-- Reads an escape sequence after its backslash, then the rest of the literal. Strict mode has no
octal escapes: `\0` stands for NUL only when no digit follows; and a high surrogate makes a
character only with the low surrogate escaped after it. -/
def readEscape (q : Char) : List Char → Option (List Char × List Char)
  | [] => none
  | '\r' :: '\n' :: rest => readString q rest
  | '0' :: rest =>
    if (rest.head?.map Char.isDigit).getD false then none
    else prepend '\x00' (readString q rest)
  | 'x' :: a :: b :: rest =>
    match hexValue? [a, b] with
    | some n => prepend (Char.ofNat n) (readString q rest)
    | none => none
  | 'u' :: '{' :: rest => readBraced q 0 false rest
  | 'u' :: a :: b :: c :: d :: rest =>
    match hexValue? [a, b, c, d] with
    | some n =>
      if 0xD800 ≤ n ∧ n < 0xDC00 then
        match rest with
        | '\\' :: 'u' :: e :: f :: g :: h :: more =>
          match hexValue? [e, f, g, h] with
          | some m =>
            if 0xDC00 ≤ m ∧ m < 0xE000 then
              prepend (Char.ofNat (0x10000 + (n - 0xD800) * 0x400 + (m - 0xDC00)))
                (readString q more)
            else none
          | none => none
        | _ => none
      else match codePoint? n with
        | some ch => prepend ch (readString q rest)
        | none => none
    | none => none
  | c :: rest =>
    if isLineTerminator c then readString q rest
    else match singleEscape? c with
      | some ch => prepend ch (readString q rest)
      | none => if c.isDigit || c = 'x' || c = 'u' then none else prepend c (readString q rest)

/-- Reads the hexadecimal digits of a `\u{...}` escape; `acc` is the value so far and `any`
whether a digit was read. -/
def readBraced (q : Char) (acc : Nat) (any : Bool) : List Char → Option (List Char × List Char)
  | [] => none
  | '}' :: rest =>
    if any then
      match codePoint? acc with
      | some ch => prepend ch (readString q rest)
      | none => none
    else none
  | c :: rest =>
    match hexDigit? c with
    | some d => if acc * 16 + d ≤ 0x10FFFF then readBraced q (acc * 16 + d) true rest else none
    | none => none
end

/-- The value of a string literal quoted by `q` that makes up the whole of `literal`. -/
def literalValue? (q : Char) (literal : String) : Option String :=
  match literal.toList with
  | c :: body =>
    if c = q then
      match readString q body with
      | some (value, []) => some (String.ofList value)
      | _ => none
    else none
  | [] => none

example : literalValue? '\'' "'a\\u{1F600}\\x41\\uD83D\\uDE00\\\nz'" = some "a😀A😀z" := by
  decide +kernel

theorem readString_quote {q : Char} (notSlash : q ≠ '\\') (rest : List Char) :
    readString q (q :: rest) = some ([], rest) := by
  rw [readString]
  · simp
  · exact notSlash

theorem readString_plain {q c : Char} (notSlash : c ≠ '\\') (notQuote : c ≠ q)
    (notLf : c ≠ '\n') (notCr : c ≠ '\r') (rest : List Char) :
    readString q (c :: rest) = prepend c (readString q rest) := by
  rw [readString]
  · simp [notQuote, notLf, notCr]
  · exact notSlash

theorem readString_escape (q : Char) (rest : List Char) :
    readString q ('\\' :: rest) = readEscape q rest := by
  rw [readString]

theorem singleEscape_cases {c ch : Char} (single : singleEscape? c = some ch) :
    c = '\'' ∨ c = '"' ∨ c = '\\' ∨ c = 'b' ∨ c = 'f' ∨ c = 'n' ∨ c = 'r' ∨ c = 't' ∨ c = 'v' := by
  unfold singleEscape? at single
  split at single <;> simp_all

/-- A single-character escape stands for its character. None of the single escapes starts one of the
longer escapes or a line continuation. -/
theorem readEscape_single {q c ch : Char} (single : singleEscape? c = some ch)
    (rest : List Char) : readEscape q (c :: rest) = prepend ch (readString q rest) := by
  obtain ⟨notCr, notNul, notX, notU, notTerminator⟩ : c ≠ '\r' ∧ c ≠ '0' ∧ c ≠ 'x' ∧ c ≠ 'u' ∧
      isLineTerminator c = false := by
    rcases singleEscape_cases single with rfl | rfl | rfl | rfl | rfl | rfl | rfl | rfl | rfl <;>
      decide
  rw [readEscape]
  · rw [if_neg (by simp [notTerminator]), single]
  · exact fun _ isCr => absurd isCr notCr
  · exact notNul
  · exact fun _ _ _ isX => absurd isX notX
  · exact fun _ isU => absurd isU notU
  · exact fun _ _ _ _ _ isU => absurd isU notU

/-- How a literal quoted by `q` writes a character when it escapes backslashes and `q`. -/
def escapeChar (q c : Char) : List Char := if c = '\\' ∨ c = q then ['\\', c] else [c]

/-- A text without line feed or carriage return, escaped and followed by the quote, is read
back as the text. -/
theorem readString_escaped {q : Char} (quote : q = '\'' ∨ q = '"') :
    ∀ (s rest : List Char), (∀ c ∈ s, c ≠ '\n' ∧ c ≠ '\r') →
      readString q (s.flatMap (escapeChar q) ++ q :: rest) = some (s, rest)
  | [], rest, _ => by
    rcases quote with rfl | rfl <;> exact readString_quote (by decide) rest
  | c :: s, rest, plain => by
    have tail := readString_escaped quote s rest fun d member =>
      plain d (List.mem_cons_of_mem c member)
    have quoteEscape : singleEscape? q = some q := by rcases quote with rfl | rfl <;> rfl
    by_cases escaped : c = '\\' ∨ c = q
    · have single : singleEscape? c = some c := by
        rcases escaped with rfl | rfl
        · rfl
        · exact quoteEscape
      simp only [List.flatMap_cons, escapeChar, if_pos escaped, List.cons_append, List.nil_append]
      rw [readString_escape, readEscape_single single, tail]
      rfl
    · obtain ⟨notSlash', notQuote⟩ := not_or.mp escaped
      obtain ⟨notLf, notCr⟩ := plain c List.mem_cons_self
      simp only [List.flatMap_cons, escapeChar, if_neg escaped, List.cons_append, List.nil_append]
      rw [readString_plain notSlash' notQuote notLf notCr, tail]
      rfl

/-- A text that a string literal holds with only backslashes and quotes escaped: it has no
line feed and no carriage return. -/
def OnOneLine (s : String) : Prop := ∀ c ∈ s.toList, c ≠ '\n' ∧ c ≠ '\r'

instance : DecidablePred OnOneLine := fun s =>
  List.decidableBAll (fun c => c ≠ '\n' ∧ c ≠ '\r') s.toList

/-- A literal spelled as the quote, the escaped text and the quote again has the text as its
value. -/
theorem literalValue_of_escaped {q : Char} (quote : q = '\'' ∨ q = '"') {literal s : String}
    (plain : OnOneLine s)
    (spelled : literal.toList = q :: (s.toList.flatMap (escapeChar q) ++ [q])) :
    literalValue? q literal = some s := by
  unfold literalValue?
  rw [spelled]
  dsimp only
  rw [if_pos rfl, readString_escaped quote s.toList [] plain]
  simp

/-- Escaping backslashes, then the quote `q`, escapes each character once. -/
theorem escape_backslashes_then_quotes {q : Char} (notSlash : q ≠ '\\') (cs : List Char) :
    Text.replaceAux [q] ['\\', q] (Text.replaceAux ['\\'] ['\\', '\\'] cs) =
      cs.flatMap (escapeChar q) := by
  rw [Text.replaceAux_single, Text.replaceAux_single, List.flatMap_assoc]
  apply List.flatMap_congr
  intro c _
  by_cases slash : c = '\\'
  · subst slash
    simp [escapeChar, Ne.symm notSlash]
  · by_cases quote : c = q <;> simp [escapeChar, slash, quote, notSlash]

/-- Escaping only the quote `q` escapes each character of a text without backslashes. -/
theorem escape_quotes_of_no_backslash (q : Char) {cs : List Char} (noSlash : '\\' ∉ cs) :
    Text.replaceAux [q] ['\\', q] cs = cs.flatMap (escapeChar q) := by
  rw [Text.replaceAux_single]
  apply List.flatMap_congr
  intro c member
  have slash : c ≠ '\\' := fun same => noSlash (same ▸ member)
  by_cases quote : c = q <;> simp [escapeChar, slash, quote]

/-! ## Property keys -/

/-- An ASCII character that may start an identifier name. -/
def isIdentifierStart (c : Char) : Bool :=
  ('A' ≤ c && c ≤ 'Z') || ('a' ≤ c && c ≤ 'z') || c = '$' || c = '_'

/-- An ASCII character that may continue an identifier name. -/
def isIdentifierPart (c : Char) : Bool := isIdentifierStart c || ('0' ≤ c && c ≤ '9')

/-- An identifier name of ASCII characters, which a property key may be without quotes; the
reserved words are identifier names too. -/
def isIdentifierName : List Char → Bool
  | [] => false
  | c :: rest => isIdentifierStart c && rest.all isIdentifierPart

end Script

open Script

theorem Naming.isKeyStart_eq (c : Char) : Naming.isKeyStart c = isIdentifierStart c := by
  simp only [Naming.isKeyStart, isIdentifierStart, Char.le_def]
  delta Char.isAlpha Char.isUpper Char.isLower
  rw [Bool.eq_iff_iff]
  simp only [Bool.or_eq_true, Bool.and_eq_true, decide_eq_true_eq, ge_iff_le]
  grind

theorem Naming.isKeyChar_eq (c : Char) : Naming.isKeyChar c = isIdentifierPart c := by
  simp only [Naming.isKeyChar, isIdentifierPart, ← isKeyStart_eq, Naming.isKeyStart, Char.le_def]
  delta Char.isAlphanum Char.isDigit
  rw [Bool.eq_iff_iff]
  simp only [Bool.or_eq_true, Bool.and_eq_true, decide_eq_true_eq, ge_iff_le]
  grind

theorem Naming.isBareKey_eq {name : String} (noLf : '\n' ∉ name.toList) :
    Naming.isBareKey name = isIdentifierName name.toList := by
  have notLast : name.toList.getLast? ≠ some '\n' := fun last => noLf (List.mem_of_getLast? last)
  have keyStart : Naming.isKeyStart = isIdentifierStart := funext Naming.isKeyStart_eq
  have keyChar : Naming.isKeyChar = isIdentifierPart := funext Naming.isKeyChar_eq
  unfold Naming.isBareKey
  dsimp only
  rw [if_neg notLast]
  cases name.toList with
  | nil => rfl
  | cons c rest => simp only [isIdentifierName, keyStart, keyChar]

/-- A property key is its name when the name is an identifier name, and otherwise a
double-quoted literal whose value is the name; names with a line break are left out. -/
theorem Naming.propertyKey_reads (x : String) (plain : OnOneLine x) :
    (isIdentifierName x.toList = true ∧ Naming.propertyKey x = x) ∨
      (isIdentifierName x.toList = false ∧ literalValue? '"' (Naming.propertyKey x) = some x) := by
  have noLf : '\n' ∉ x.toList := fun member => (plain '\n' member).1 rfl
  unfold Naming.propertyKey
  rw [isBareKey_eq noLf]
  cases bare : isIdentifierName x.toList
  · right
    refine ⟨rfl, literalValue_of_escaped (Or.inr rfl) plain ?_⟩
    simp [Text.toList_replace, escape_backslashes_then_quotes (by decide : '"' ≠ '\\')]
  · left
    exact ⟨rfl, rfl⟩

/-- A string literal type is a single-quoted literal whose value is the value's text. -/
theorem SchemaNode.stringLiteral_reads (v : Value) (plain : OnOneLine v.display) :
    literalValue? '\'' (SchemaNode.stringLiteral v) = some v.display :=
  literalValue_of_escaped (Or.inl rfl) plain (by
    simp [SchemaNode.stringLiteral, Text.toList_replace,
      escape_backslashes_then_quotes (by decide : '\'' ≠ '\\')])

/-- The constants of an enum hold, in order, the texts of its values with quotes escaped. -/
theorem Models.constants_values {values : Value} {cs : List Constant}
    (built : Models.constants values = .ok cs) :
    ∃ items, values.members = .ok items ∧
      cs.map Constant.value = items.map fun v => Text.replace v.display "'" "\\'" := by
  unfold Models.constants at built
  dsimp only at built
  split at built
  case h_6 =>
    obtain ⟨_, thrown, _⟩ := except_bind_ok built
    cases thrown
  all_goals
    obtain ⟨items, listed, built⟩ := except_bind_ok built
    cases built
    refine ⟨items, listed, ?_⟩
    conv_rhs => rw [← List.zipIdx_map_fst 0 items]
    rw [List.map_map, List.map_map]
    apply List.map_congr_left
    rintro ⟨v, i⟩ _
    rfl

/-- The single-quoted literals of an enum's constants have, in order, the texts of its values
as their values, when these have no backslash and no line break. -/
theorem Models.constantLiterals_read {values : Value} {cs : List Constant} {items : List Value}
    (built : Models.constants values = .ok cs) (listed : values.members = .ok items)
    (plain : ∀ v ∈ items, OnOneLine v.display ∧ '\\' ∉ v.display.toList) :
    cs.map (fun c => literalValue? '\'' (Render.constantLiteral c)) =
      items.map fun v => some v.display := by
  obtain ⟨items', listed', texts⟩ := constants_values built
  rw [listed] at listed'
  cases listed'
  have quoted : (fun c => literalValue? '\'' (Render.constantLiteral c)) =
      (fun value => literalValue? '\'' ("'" ++ value ++ "'")) ∘ Constant.value := rfl
  rw [quoted, ← List.map_map, texts, List.map_map]
  apply List.map_congr_left
  intro v member
  obtain ⟨oneLine, noSlash⟩ := plain v member
  exact literalValue_of_escaped (Or.inl rfl) oneLine (by
    simp [Text.toList_replace, escape_quotes_of_no_backslash '\'' noSlash])

namespace Script

/-! ## Comment closings -/

/-- The number of `*/` sequences in a text: each one would end a block comment. -/
def closings : List Char → Nat
  | '*' :: '/' :: rest => closings rest + 1
  | _ :: rest => closings rest
  | [] => 0

theorem closings_star_slash (rest : List Char) :
    closings ('*' :: '/' :: rest) = closings rest + 1 := by
  rw [closings]

/-- A character that does not open a `*/` with the next one adds no closing. -/
theorem closings_cons {c : Char} {rest : List Char}
    (notClosing : ¬(c = '*' ∧ rest.head? = some '/')) :
    closings (c :: rest) = closings rest := by
  rw [closings]
  rintro rest' rfl rfl
  exact notClosing ⟨rfl, rfl⟩

@[simp] theorem closings_cons_of_ne_star {c : Char} (notStar : c ≠ '*') (rest : List Char) :
    closings (c :: rest) = closings rest :=
  closings_cons fun ⟨star, _⟩ => notStar star

/-- The closings of two texts add up, unless a `*/` straddles the seam. -/
theorem closings_append :
    ∀ (a b : List Char), (a.getLast? ≠ some '*' ∨ b.head? ≠ some '/') →
      closings (a ++ b) = closings a + closings b
  | [], b, _ => by simp [closings]
  | [c], b, seam => by
    by_cases star : c = '*'
    · subst star
      have notSlash : b.head? ≠ some '/' := by simpa using seam
      rw [List.singleton_append, closings_cons fun ⟨_, slash⟩ => notSlash slash]
      simp [closings]
    · simp [closings, star]
  | c :: d :: rest, b, seam => by
    have seam' : (d :: rest).getLast? ≠ some '*' ∨ b.head? ≠ some '/' := by
      simpa [List.getLast?_cons_cons] using seam
    by_cases pair : c = '*' ∧ d = '/'
    · obtain ⟨rfl, rfl⟩ := pair
      have seamRest : rest.getLast? ≠ some '*' ∨ b.head? ≠ some '/' := by
        cases rest with
        | nil => simp
        | cons e more => simpa [List.getLast?_cons] using seam'
      rw [List.cons_append, List.cons_append, closings_star_slash, closings_star_slash,
        closings_append rest b seamRest]
      omega
    · have notClosing : ¬(c = '*' ∧ (d :: rest).head? = some '/') := by simpa using pair
      have notClosing' : ¬(c = '*' ∧ (d :: rest ++ b).head? = some '/') := by simpa using pair
      rw [List.cons_append, closings_cons notClosing', closings_cons notClosing,
        closings_append (d :: rest) b seam']

theorem closings_spaces (n : Nat) (rest : List Char) :
    closings (List.replicate n ' ' ++ rest) = closings rest := by
  induction n with
  | zero => rfl
  | succ n ih =>
    rw [List.replicate_succ, List.cons_append, closings_cons_of_ne_star (by decide), ih]

@[simp] theorem closings_replicate_space (n : Nat) : closings (List.replicate n ' ') = 0 := by
  simpa [closings] using closings_spaces n []

theorem closings_newline (cs : List Char) : closings (cs ++ ['\n']) = closings cs := by
  rw [closings_append cs ['\n'] (Or.inr (by simp))]
  rfl

/-- Lines written one after another, each ending in a line break and holding the closings of
its source line, hold the closings of the source lines joined by line breaks. -/
theorem closings_lines (f : String → String)
    (each : ∀ line, closings (f line).toList = closings line.toList ∧
      (f line).toList.getLast? = some '\n') :
    ∀ lines : List String, closings (lines.flatMap fun line => (f line).toList) =
      closings (['\n'].intercalate (lines.map String.toList))
  | [] => rfl
  | [line] => by simp [(each line).1]
  | line :: next :: more => by
    obtain ⟨kept, ends⟩ := each line
    have rest := closings_lines f each (next :: more)
    rw [List.flatMap_cons, closings_append _ _ (Or.inl (by simp [ends])), kept, rest]
    simp only [List.map_cons]
    rw [List.intercalate_cons_cons, List.append_assoc,
      closings_append line.toList _ (Or.inr (by simp)), List.singleton_append,
      closings_cons_of_ne_star (by decide)]

end Script

open Script

/-- A line of a documentation block holds the closings of the line of text it shows. -/
theorem Render.closings_docLine (level : Nat) (line : String) :
    closings (Render.indentOf level ++ " *" ++ (if line = "" then "" else " " ++ line) ++
        "\n").toList = closings line.toList ∧
      (Render.indentOf level ++ " *" ++ (if line = "" then "" else " " ++ line) ++
        "\n").toList.getLast? = some '\n' := by
  by_cases blank : line = ""
  · subst blank
    simp [Render.indentOf, closings_spaces, closings]
  · simp only [Render.indentOf, blank, if_false]
    simp [closings_spaces]
    refine ⟨?_, ?_⟩
    · rw [closings_cons (by simp), closings_cons_of_ne_star (by decide), closings_newline]
    · rw [← List.cons_append, List.getLast?_append]
      rfl

/-- The lines of a documentation block hold the closings of the stripped text. -/
theorem Render.closings_docLines (level : Nat) (s : String) :
    closings (String.join ((Text.splitOn (Text.strip s) "\n").map fun line =>
        Render.indentOf level ++ " *" ++ (if line = "" then "" else " " ++ line) ++ "\n")).toList =
      closings (Text.strip s).toList := by
  rw [String.toList_join, List.flatMap_map,
    closings_lines _ (Render.closings_docLine level) (Text.splitOn (Text.strip s) "\n")]
  exact congrArg closings (Text.intercalate_splitOn_single (Text.strip s) '\n')

/-- A documentation block of non-empty text opens with its `/**` and ends with a `*/` after
which only the indentation of the next line follows; between them it holds exactly the `*/` of
the stripped text, so the block closes early exactly when the text has a `*/`. -/
theorem Render.docBlock_closings (s : String) (nonempty : s ≠ "") (level : Nat) :
    ∃ middle, Render.docBlock (.str s) level =
        .ok ("\n" ++ Render.indentOf level ++ "/**" ++ middle ++ "*/\n" ++ Render.indentOf level) ∧
      closings ("\n" ++ Render.indentOf level ++ "/**" ++ middle ++ "*/\n" ++
        Render.indentOf level).toList = closings (Text.strip s).toList + 1 := by
  have truthy : (Value.str s).truthy = true := by simpa [Value.truthy] using nonempty
  refine ⟨"\n" ++ String.join ((Text.splitOn (Text.strip s) "\n").map fun line =>
      Render.indentOf level ++ " *" ++ (if line = "" then "" else " " ++ line) ++ "\n") ++
        Render.indentOf level ++ " ", ?_, ?_⟩
  · simp only [Render.docBlock, truthy, Bool.not_true, Bool.false_eq_true, if_false]
    congr 1
    apply String.toList_inj.mp
    simp
  · have lines := Render.closings_docLines level s
    have indent : (Render.indentOf level).toList = List.replicate (2 * level) ' ' := by
      simp [Render.indentOf]
    have lf : ("\n" : String).toList = ['\n'] := rfl
    have opening : ("/**" : String).toList = ['/', '*', '*'] := rfl
    have space : (" " : String).toList = [' '] := rfl
    have closing : ("*/\n" : String).toList = ['*', '/', '\n'] := rfl
    have seam : ∀ n rest, (List.replicate n ' ' ++ ' ' :: rest).head? ≠ some '/' := by
      intro n rest
      cases n <;> simp [List.replicate_succ]
    simp only [String.toList_append, indent, lf, opening, space, closing, List.append_assoc,
      List.cons_append, List.nil_append]
    rw [closings_cons_of_ne_star (by decide), closings_spaces, closings_cons_of_ne_star (by decide),
      closings_cons (by simp), closings_cons (by simp), closings_cons_of_ne_star (by decide),
      closings_append _ _ (Or.inr (seam _ _)), closings_spaces,
      closings_cons_of_ne_star (by decide), closings_star_slash,
      closings_cons_of_ne_star (by decide), closings_replicate_space, lines]

/-- Names, literal types and enum constants read back as their text, and a description block
holds one `*/` more than its text, when the text has no line break (and, for a constant, no
backslash). -/
theorem embedded_text_reads_back (x : String) (v values : Value) (cs : List Constant)
    (items : List Value) (s : String) (level : Nat) :
    (OnOneLine x →
      (isIdentifierName x.toList = true ∧ Naming.propertyKey x = x) ∨
        (isIdentifierName x.toList = false ∧ literalValue? '"' (Naming.propertyKey x) = some x)) ∧
    (OnOneLine v.display → literalValue? '\'' (SchemaNode.stringLiteral v) = some v.display) ∧
    (Models.constants values = .ok cs → values.members = .ok items →
      (∀ w ∈ items, OnOneLine w.display ∧ '\\' ∉ w.display.toList) →
      cs.map (fun c => literalValue? '\'' (Render.constantLiteral c)) =
        items.map fun w => some w.display) ∧
    (s ≠ "" →
      ∃ middle, Render.docBlock (.str s) level =
          .ok ("\n" ++ Render.indentOf level ++ "/**" ++ middle ++ "*/\n" ++
            Render.indentOf level) ∧
        closings ("\n" ++ Render.indentOf level ++ "/**" ++ middle ++ "*/\n" ++
          Render.indentOf level).toList = closings (Text.strip s).toList + 1) :=
  ⟨Naming.propertyKey_reads x, SchemaNode.stringLiteral_reads v, Models.constantLiterals_read,
    fun nonempty => Render.docBlock_closings s nonempty level⟩

theorem embedded_text_reads_back_pets :
    literalValue? '"' (Naming.propertyKey "pet-name") = some "pet-name" ∧
      literalValue? '\'' (SchemaNode.stringLiteral (.str "it's")) = some "it's" ∧
      (∃ cs, Models.constants (.list [.str "it's"]) = .ok cs ∧
        cs.map (fun c => literalValue? '\'' (Render.constantLiteral c)) = [some "it's"]) ∧
      ∃ middle, Render.docBlock (.str "A pet.") 1 =
          .ok ("\n" ++ Render.indentOf 1 ++ "/**" ++ middle ++ "*/\n" ++ Render.indentOf 1) ∧
        closings ("\n" ++ Render.indentOf 1 ++ "/**" ++ middle ++ "*/\n" ++
          Render.indentOf 1).toList = closings (Text.strip "A pet.").toList + 1 := by
  obtain ⟨cs, built⟩ := exists_ok_of_isOk
    (by decide +kernel : (Models.constants (.list [.str "it's"])).isOk = true)
  obtain ⟨keys, literals, constantsRead, block⟩ := embedded_text_reads_back "pet-name" (.str "it's")
    (.list [.str "it's"]) cs [.str "it's"] "A pet." 1
  refine ⟨?_, literals (by decide +kernel),
    ⟨cs, built, constantsRead built rfl (by decide +kernel)⟩, block (by decide +kernel)⟩
  rcases keys (by decide +kernel) with ⟨bare, _⟩ | ⟨_, quoted⟩
  · exact absurd bare (by decide +kernel)
  · exact quoted

/-- A name ending in a line break stays bare and keeps the break, a line break elsewhere breaks
the quoted key or literal type, a backslash escapes the closing quote of an enum constant, and
a `*/` in a description ends its block early. -/
theorem embedded_text_breaks :
    (Naming.propertyKey "a\n" = "a\n" ∧ isIdentifierName "a\n".toList = false ∧
      literalValue? '"' (Naming.propertyKey "a\n") = none) ∧
    literalValue? '"' (Naming.propertyKey "a b\nc") = none ∧
    literalValue? '\'' (SchemaNode.stringLiteral (.str "a\nb")) = none ∧
    ((Models.constants (.list [.str "a\\"])).toOption.map fun cs =>
      cs.map fun c => literalValue? '\'' (Render.constantLiteral c)) = some [none] ∧
    ((Render.docBlock (.str "a */ b") 0).toOption.map fun text => closings text.toList) =
      some 2 := by
  refine ⟨⟨?_, ?_, ?_⟩, ?_, ?_, ?_, ?_⟩ <;> decide +kernel

end ClientGen
