import ClientGen.Document.Display

/-!
# Writing JSON

`Json.write` turns a document value into JSON text. A `Style` says whether members go on
lines of their own, indented, and whether characters beyond ASCII are escaped. Values that
JSON has no form for (dates, timestamps, byte strings, sets) are written as the string of
their plain text. Mapping keys that are numbers, Booleans or null are written as the text
JSON gives them; other keys cannot be written.
-/
namespace ClientGen.Json

/-- How JSON text is laid out. -/
structure Style where
  /-- Spaces per level when members go on lines of their own; none for one line. -/
  indent : Option Nat
  /-- Whether characters beyond ASCII are written as escapes. -/
  asciiOnly : Bool

/-- Four hexadecimal digits of a UTF-16 unit. -/
def unitEscape (n : Nat) : String := "\\u" ++ hexDigits 4 n

/-- One character inside a JSON string. -/
def escapeChar (asciiOnly : Bool) (c : Char) : String :=
  match c with
  | '"' => "\\\""
  | '\\' => "\\\\"
  | '\n' => "\\n"
  | '\r' => "\\r"
  | '\t' => "\\t"
  | '\x08' => "\\b"
  | '\x0c' => "\\f"
  | _ =>
    if c.toNat < 0x20 then unitEscape c.toNat
    else if asciiOnly && c.toNat ≥ 0x7F then
      if c.toNat < 0x10000 then unitEscape c.toNat
      else
        let n := c.toNat - 0x10000
        unitEscape (0xD800 + n / 0x400) ++ unitEscape (0xDC00 + n % 0x400)
    else String.singleton c

/-- A JSON string literal. -/
def quote (asciiOnly : Bool) (s : String) : String :=
  "\"" ++ String.join (s.toList.map (escapeChar asciiOnly)) ++ "\""

/-- The text of a number or of a value JSON has no form for. -/
def scalarText (style : Style) : Value → String
  | .null => "null"
  | .bool b => if b then "true" else "false"
  | .int n => toString n
  | .float bits => FloatLayout.json.write bits
  | .str s => quote style.asciiOnly s
  | v => quote style.asciiOnly v.display

/-- The text of a mapping key. -/
def keyText (style : Style) : Value → Except Fault String
  | .str s => .ok (quote style.asciiOnly s)
  | .null => .ok "\"null\""
  | .bool b => .ok (if b then "\"true\"" else "\"false\"")
  | .int n => .ok ("\"" ++ toString n ++ "\"")
  | .float bits => .ok ("\"" ++ FloatLayout.json.write bits ++ "\"")
  | _ => .error .wrongOperand

/-- The line break and indentation before a member at `level`, or nothing on one line. -/
def breakAt (style : Style) (level : Nat) : String :=
  match style.indent with
  | some n => "\n" ++ String.ofList (List.replicate (n * level) ' ')
  | none => ""

/-- The separator between members. -/
def memberSeparator (style : Style) : String :=
  if style.indent.isSome then "," else ", "

mutual
/-- The JSON text of a value nested at `level`. -/
def writeAt (style : Style) (level : Nat) : Value → Except Fault String
  | .list [] => .ok "[]"
  | .list items => do
    let body ← writeItems style (level + 1) items
    pure ("[" ++ breakAt style (level + 1) ++ body ++ breakAt style level ++ "]")
  | .map [] => .ok "\x7b\x7d"
  | .map entries => do
    let body ← writeEntries style (level + 1) entries
    pure ("\x7b" ++ breakAt style (level + 1) ++ body ++ breakAt style level ++ "\x7d")
  | v => .ok (scalarText style v)
/-- Items separated for `level`. -/
def writeItems (style : Style) (level : Nat) : List Value → Except Fault String
  | [] => .ok ""
  | [x] => writeAt style level x
  | x :: rest => do
    let first ← writeAt style level x
    let others ← writeItems style level rest
    pure (first ++ memberSeparator style ++ breakAt style level ++ others)
/-- Entries `key: value` separated for `level`. -/
def writeEntries (style : Style) (level : Nat) : List (Value × Value) → Except Fault String
  | [] => .ok ""
  | [(k, v)] => do
    let key ← keyText style k
    let value ← writeAt style level v
    pure (key ++ ": " ++ value)
  | (k, v) :: rest => do
    let key ← keyText style k
    let value ← writeAt style level v
    let others ← writeEntries style level rest
    pure (key ++ ": " ++ value ++ memberSeparator style ++ breakAt style level ++ others)
end

/-- The JSON text of a value. -/
def write (style : Style) (v : Value) : Except Fault String := writeAt style 0 v

end ClientGen.Json
