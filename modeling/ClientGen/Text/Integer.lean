import ClientGen.Text.Edit

/-!
# Reading integers from text

`readInteger` reads a whole text as a decimal integer: white space around it, an optional
sign, then decimal digits of any one or several scripts (`٣` is 3), where single
underscores may stand between digits. Anything else is no integer. `readAsciiInteger` reads
a byte string the same way, with ASCII white space and digits only.
-/
namespace ClientGen.Text

/-- The value of digits where single underscores may separate digits; nothing if a
character is neither, or an underscore stands at an end or next to another. -/
def digitsWithUnderscores (acc : Nat) : List Char → Option Nat
  | [] => some acc
  | ['_'] => none
  | '_' :: '_' :: _ => none
  | '_' :: rest => digitsWithUnderscores acc rest
  | c :: rest =>
    match decimalValue c with
    | some d => digitsWithUnderscores (10 * acc + d) rest
    | none => none

/-- The integer that characters spell in base ten after an optional sign. -/
def readSigned (cs : List Char) : Option Int :=
  let (negative, body) :=
    match cs with
    | '-' :: rest => (true, rest)
    | '+' :: rest => (false, rest)
    | _ => (false, cs)
  match body with
  | [] | '_' :: _ => none
  | _ =>
    (digitsWithUnderscores 0 body).map fun n => if negative then -(n : Int) else n

/-- The integer a text spells in base ten. -/
def readInteger (s : String) : Option Int := readSigned (strip s).toList

/-- The white space a byte string may hold around an integer: space, tab, line feed,
carriage return, vertical tab and form feed. -/
def isAsciiBlank (c : Char) : Bool :=
  c = ' ' || c = '\t' || c = '\n' || c = '\r' || c = '\x0b' || c = '\x0c'

/-- The integer a byte string spells in base ten, each byte read as the character of its
code: ASCII white space around it, an optional sign, then ASCII digits, where single
underscores may stand between digits. -/
def readAsciiInteger (data : List UInt8) : Option Int :=
  let cs := data.map fun b => Char.ofNat b.toNat
  readSigned ((cs.dropWhile isAsciiBlank).reverse.dropWhile isAsciiBlank).reverse

end ClientGen.Text
