import ClientGen.Document.Value
import ClientGen.Decimal.Nearest

/-!
# Reading JSON

`Json.read` turns JSON text into a document value. Beyond the JSON grammar it accepts the
literals `NaN`, `Infinity` and `-Infinity`. A number with a fraction or an exponent is a
float, the nearest double to the written decimal; any other number is an integer, exact at
any size. An object that names a key twice keeps the key's first place and its last value.
Control characters inside strings are refused, and white space is the space, tab, line
feed and carriage return only.

The reader is a recursive descent over the characters. Each call consumes fuel, and the
fuel given is more than twice the length of the text, which bounds the number of calls.
-/
namespace ClientGen.Json

/-- JSON white space. -/
def isSpace (c : Char) : Bool := c = ' ' || c = '\t' || c = '\n' || c = '\r'

/-- The text with leading JSON white space removed. -/
def skipSpace (cs : List Char) : List Char := cs.dropWhile isSpace

/-- An ASCII digit. -/
def isDigit (c : Char) : Bool := '0' ≤ c && c ≤ '9'

/-- The value of a run of ASCII digits. -/
def digitsValue (ds : List Char) : Nat :=
  ds.foldl (fun n d => 10 * n + (d.toNat - '0'.toNat)) 0

/-- The value of a hexadecimal digit. -/
def hexValue (c : Char) : Option Nat :=
  if '0' ≤ c && c ≤ '9' then some (c.toNat - '0'.toNat)
  else if 'a' ≤ c && c ≤ 'f' then some (c.toNat - 'a'.toNat + 10)
  else if 'A' ≤ c && c ≤ 'F' then some (c.toNat - 'A'.toNat + 10)
  else none

/-- The value of four hexadecimal digits. -/
def hex4 (a b c d : Char) : Option Nat := do
  let x ← hexValue a
  let y ← hexValue b
  let z ← hexValue c
  let w ← hexValue d
  pure (((x * 16 + y) * 16 + z) * 16 + w)

/-- A code point that can stand in text: a lone surrogate becomes the replacement
character. -/
def codeChar (n : Nat) : Char :=
  if n.isValidChar then Char.ofNat n else '�'

/-- The characters of a string up to its closing quote, reversed into `acc`, and the text
after the quote. -/
def readStringBody (acc : List Char) : List Char → Option (String × List Char)
  | [] => none
  | '"' :: rest => some (String.ofList acc.reverse, rest)
  | '\\' :: 'u' :: a :: b :: c :: d :: rest =>
    match hex4 a b c d with
    | none => none
    | some n =>
      let lone := fun (_ : Unit) => readStringBody (codeChar n :: acc) rest
      if 0xD800 ≤ n && n < 0xDC00 then
        match rest with
        | '\\' :: 'u' :: e :: f :: g :: h :: after =>
          match hex4 e f g h with
          | some low =>
            if 0xDC00 ≤ low && low < 0xE000 then
              readStringBody (codeChar (0x10000 + (n - 0xD800) * 0x400 + (low - 0xDC00)) :: acc)
                after
            else lone ()
          | none => lone ()
        | _ => lone ()
      else lone ()
  | '\\' :: c :: rest =>
    let unescaped :=
      match c with
      | '"' => some '"'
      | '\\' => some '\\'
      | '/' => some '/'
      | 'b' => some '\x08'
      | 'f' => some '\x0c'
      | 'n' => some '\n'
      | 'r' => some '\r'
      | 't' => some '\t'
      | _ => none
    match unescaped with
    | some u => readStringBody (u :: acc) rest
    | none => none
  | c :: rest => if c.toNat < 0x20 then none else readStringBody (c :: acc) rest
  termination_by cs => cs.length

/-- The digits of a fraction or an exponent: at least one. -/
def readSomeDigits (cs : List Char) : Option (List Char × List Char) :=
  let ds := cs.takeWhile isDigit
  if ds.isEmpty then none else some (ds, cs.dropWhile isDigit)

/-- A number without its sign: the integer digits, then an optional fraction and exponent.
A fraction or exponent marker without digits after it ends the number before the marker. -/
def readUnsigned (negative : Bool) (cs : List Char) : Option (Value × List Char) := do
  let (whole, rest) ←
    match cs with
    | '0' :: rest => some (['0'], rest)
    | _ => readSomeDigits cs
  let (frac, rest) :=
    match rest with
    | '.' :: more =>
      match readSomeDigits more with
      | some (ds, after) => (some ds, after)
      | none => (none, rest)
    | _ => (none, rest)
  let (exp, rest) :=
    let expDigits (signed : Int → Int) (more : List Char) :=
      match readSomeDigits more with
      | some (ds, after) => (some (signed (digitsValue ds)), after)
      | none => (none, rest)
    match rest with
    | 'e' :: '+' :: more | 'E' :: '+' :: more => expDigits id more
    | 'e' :: '-' :: more | 'E' :: '-' :: more => expDigits (fun n => -n) more
    | 'e' :: more | 'E' :: more => expDigits id more
    | _ => (none, rest)
  match frac, exp with
  | none, none =>
    let n : Int := digitsValue whole
    pure (.int (if negative then -n else n), rest)
  | _, _ =>
    let fracDigits := frac.getD []
    let mantissa := digitsValue (whole ++ fracDigits)
    let e := exp.getD 0 - fracDigits.length
    pure (.float (Decimal.nearestBits negative mantissa e), rest)

/-- Whether the text starts with the word `w`, and the rest after it. -/
def word (w : String) (cs : List Char) : Option (List Char) :=
  if w.toList.isPrefixOf cs then some (cs.drop w.length) else none

mutual
/-- A value at the start of the text (after white space), and the rest. -/
def readValue : Nat → List Char → Option (Value × List Char)
  | 0, _ => none
  | fuel + 1, cs =>
    match skipSpace cs with
    | '{' :: rest => readEntries fuel [] true rest
    | '[' :: rest => readItems fuel [] true rest
    | '"' :: rest => (readStringBody [] rest).map fun (s, r) => (.str s, r)
    | 'n' :: 'u' :: 'l' :: 'l' :: rest => some (.null, rest)
    | 't' :: 'r' :: 'u' :: 'e' :: rest => some (.bool true, rest)
    | 'f' :: 'a' :: 'l' :: 's' :: 'e' :: rest => some (.bool false, rest)
    | 'N' :: 'a' :: 'N' :: rest => some (.float 0x7FF8000000000000, rest)
    | 'I' :: rest => (word "nfinity" rest).map fun r => (.float 0x7FF0000000000000, r)
    | '-' :: 'I' :: rest => (word "nfinity" rest).map fun r => (.float 0xFFF0000000000000, r)
    | '-' :: rest => readUnsigned true rest
    | c :: rest => if isDigit c then readUnsigned false (c :: rest) else none
    | [] => none
/-- The items of an array after its opening bracket or a comma, reversed into `acc`;
`first` marks the place right after the bracket, where the array may close. -/
def readItems : Nat → List Value → Bool → List Char → Option (Value × List Char)
  | 0, _, _, _ => none
  | fuel + 1, acc, first, cs =>
    match first, skipSpace cs with
    | true, ']' :: rest => some (.list [], rest)
    | _, _ =>
      match readValue fuel cs with
      | none => none
      | some (v, rest) =>
        match skipSpace rest with
        | ',' :: more => readItems fuel (v :: acc) false more
        | ']' :: more => some (.list (v :: acc).reverse, more)
        | _ => none
/-- The entries of an object after its opening brace or a comma, in `acc`; a key met
again keeps its place and takes the new value. -/
def readEntries : Nat → List (Value × Value) → Bool → List Char → Option (Value × List Char)
  | 0, _, _, _ => none
  | fuel + 1, acc, first, cs =>
    match first, skipSpace cs with
    | true, '}' :: rest => some (.map [], rest)
    | _, '"' :: rest =>
      match readStringBody [] rest with
      | none => none
      | some (key, rest) =>
        match skipSpace rest with
        | ':' :: rest =>
          match readValue fuel rest with
          | none => none
          | some (v, rest) =>
            let acc := Value.insertEntry acc (.str key) v
            match skipSpace rest with
            | ',' :: more => readEntries fuel acc false more
            | '}' :: more => some (.map acc, more)
            | _ => none
        | _ => none
    | _, _ => none
end

/-- The value that a JSON text holds, when the whole text is one value with white space
around it. -/
def read (text : String) : Option Value :=
  let cs := text.toList
  match readValue (2 * cs.length + 2) cs with
  | some (v, rest) => if (skipSpace rest).isEmpty then some v else none
  | none => none

end ClientGen.Json
