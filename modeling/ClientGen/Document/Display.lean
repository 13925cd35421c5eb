import ClientGen.Document.Value

/-!
# Writing values as text

Two texts of a value appear in the generator's output.

* `Value.display` is the plain text of a value, used where a value becomes part of a name
  or a message: text stands for itself, `null` is `None`, Booleans are `True` and `False`.
* `Value.quoted` is the unambiguous text used inside containers and in messages that show
  what was given: text is quoted, preferring single quotes.

Floats are written with the fewest digits that read back (`Decimal.Binary.shortest`), laid
out by `FloatLayout.standard`.
-/
namespace ClientGen

/-- How a float is laid out around its shortest digits. -/
structure FloatLayout where
  /-- Exponents of the leading digit from this one on are written positionally, -/
  plainFrom : Int
  /-- up to this one, excluded; the others in scientific form. -/
  plainBelow : Int
  /-- The least number of exponent digits. -/
  expWidth : Nat
  /-- The text of a NaN. -/
  nan : String
  /-- The text of positive infinity. -/
  inf : String

/-- Floats in values shown as text: positional from `0.0001` up to below `1e16`, an
integral value keeps `.0`, and the exponent has a sign and at least two digits
(`1e+16`, `1e-05`). -/
def FloatLayout.standard : FloatLayout where
  plainFrom := -4
  plainBelow := 16
  expWidth := 2
  nan := "nan"
  inf := "inf"

/-- Floats in JSON text: as `standard`, with NaN and infinity spelled as JSON readers
accept them. -/
def FloatLayout.json : FloatLayout where
  plainFrom := -4
  plainBelow := 16
  expWidth := 2
  nan := "NaN"
  inf := "Infinity"

/-- `n` zeros. -/
def zeros (n : Nat) : String := String.ofList (List.replicate n '0')

/-- The positional or scientific text of a non-negative decimal. -/
def FloatLayout.layout (f : FloatLayout) (d : Decimal.Dec) : String :=
  if d.digits = 0 then "0.0"
  else
    let (digits, point) := d.digitsAndPoint
    let n : Int := digits.length
    let lead := point - 1
    if f.plainFrom ≤ lead && lead < f.plainBelow then
      if point ≤ 0 then "0." ++ zeros (-point).toNat ++ digits
      else if point < n then
        Text.takeChars digits point.toNat ++ "." ++ Text.dropChars digits point.toNat
      else digits ++ zeros (point - n).toNat ++ ".0"
    else
      let mantissa :=
        if n = 1 then digits
        else Text.takeChars digits 1 ++ "." ++ Text.dropChars digits 1
      let e := toString lead.natAbs
      let e := zeros (f.expWidth - e.length) ++ e
      mantissa ++ "e" ++ (if lead < 0 then "-" else "+") ++ e

/-- The text of a float given by its bits. -/
def FloatLayout.write (f : FloatLayout) (bits : UInt64) : String :=
  let x := Float.ofBits bits
  let negative := bits >>> 63 = 1
  if x.isNaN then f.nan
  else if x.isInf then (if negative then "-" else "") ++ f.inf
  else
    (if negative then "-" else "") ++ f.layout (Decimal.Binary.ofBits bits).shortest

/-- A number as hexadecimal digits, lowercase, at least `width` of them. -/
def hexDigits (width n : Nat) : String :=
  let text := String.ofList (Nat.toDigits 16 n)
  zeros (width - text.length) ++ text

/-- One character of quoted text, where `quote` is the quote mark in use. -/
def quoteChar (quote : Char) (c : Char) : String :=
  if c = quote || c = '\\' then String.ofList ['\\', c]
  else if c = '\n' then "\\n"
  else if c = '\r' then "\\r"
  else if c = '\t' then "\\t"
  else if c.toNat < 0x20 || c.toNat = 0x7F then "\\x" ++ hexDigits 2 c.toNat
  else if c.toNat < 0x7F || Text.isPrintable c then String.singleton c
  else if c.toNat < 0x100 then "\\x" ++ hexDigits 2 c.toNat
  else if c.toNat < 0x10000 then "\\u" ++ hexDigits 4 c.toNat
  else "\\U" ++ hexDigits 8 c.toNat

/-- Text in quotes: single quotes, or double quotes when the text holds a single quote and
no double quote. -/
def quoteText (s : String) : String :=
  let quote := if s.contains '\'' && !s.contains '"' then '"' else '\''
  String.singleton quote ++ String.join (s.toList.map (quoteChar quote)) ++
    String.singleton quote

/-- A byte string as a quoted literal with a `b` in front. -/
def quoteBytes (data : List UInt8) : String :=
  let quote := if data.contains 39 && !data.contains 34 then '"' else '\''
  let byte (b : UInt8) : String :=
    let c := Char.ofNat b.toNat
    if c = quote || c = '\\' then String.ofList ['\\', c]
    else if c = '\n' then "\\n"
    else if c = '\r' then "\\r"
    else if c = '\t' then "\\t"
    else if b < 0x20 || b ≥ 0x7F then "\\x" ++ hexDigits 2 b.toNat
    else String.singleton c
  "b" ++ String.singleton quote ++ String.join (data.map byte) ++ String.singleton quote

/-- A number with at least two digits. -/
def twoDigits (n : Nat) : String := zeros (2 - (toString n).length) ++ toString n

/-- A date as `YYYY-MM-DD`. -/
def Date.iso (d : Date) : String :=
  zeros (4 - (toString d.year).length) ++ toString d.year ++ "-" ++ twoDigits d.month ++ "-" ++
    twoDigits d.day

/-- A UTC offset in seconds as `+HH:MM`, with seconds when there are any. -/
def offsetText (offset : Int) : String :=
  let sign := if offset < 0 then "-" else "+"
  let n := offset.natAbs
  let base := sign ++ twoDigits (n / 3600) ++ ":" ++ twoDigits (n % 3600 / 60)
  if n % 60 = 0 then base else base ++ ":" ++ twoDigits (n % 60)

/-- A timestamp with `sep` between date and time; microseconds only when there are any. -/
def Timestamp.iso (t : Timestamp) (sep : String) : String :=
  let micro := if t.microsecond = 0 then ""
    else "." ++ zeros (6 - (toString t.microsecond).length) ++ toString t.microsecond
  t.date.iso ++ sep ++ twoDigits t.hour ++ ":" ++ twoDigits t.minute ++ ":" ++
    twoDigits t.second ++ micro ++ (t.offset.map offsetText).getD ""

/-- The constructor-style text of a timestamp's offset. -/
def offsetQuoted (offset : Int) : String :=
  if offset = 0 then "datetime.timezone.utc"
  else
    let days := offset.fdiv 86400
    let rest := offset - days * 86400
    let delta :=
      if days = 0 then s!"seconds={rest}"
      else if rest = 0 then s!"days={days}"
      else s!"days={days}, seconds={rest}"
    "datetime.timezone(datetime.timedelta(" ++ delta ++ "))"

namespace Value

mutual
/-- The unambiguous text of a value: text quoted, containers with their members quoted. -/
def quoted : Value → String
  | .null => "None"
  | .bool b => if b then "True" else "False"
  | .int n => toString n
  | .float bits => FloatLayout.standard.write bits
  | .str s => quoteText s
  | .list items => "[" ++ quotedList items ++ "]"
  | .map entries => "\x7b" ++ quotedEntries entries ++ "\x7d"
  | .date d => s!"datetime.date({d.year}, {d.month}, {d.day})"
  | .timestamp t =>
    let fields := [t.date.year, t.date.month, t.date.day, t.hour, t.minute] ++
      (if t.second = 0 && t.microsecond = 0 then []
       else if t.microsecond = 0 then [t.second] else [t.second, t.microsecond])
    let zone := (t.offset.map fun o => ", tzinfo=" ++ offsetQuoted o).getD ""
    "datetime.datetime(" ++ ", ".intercalate (fields.map toString) ++ zone ++ ")"
  | .bytes data => quoteBytes data
  | .set members => if members.isEmpty then "set()" else "\x7b" ++ quotedList members ++ "\x7d"
/-- Quoted members separated by commas. -/
def quotedList : List Value → String
  | [] => ""
  | [x] => quoted x
  | x :: rest => quoted x ++ ", " ++ quotedList rest
/-- Quoted entries `key: value` separated by commas. -/
def quotedEntries : List (Value × Value) → String
  | [] => ""
  | [(k, v)] => quoted k ++ ": " ++ quoted v
  | (k, v) :: rest => quoted k ++ ": " ++ quoted v ++ ", " ++ quotedEntries rest
end

/-- The plain text of a value: text as it is, every other value as quoted, except that a
date and a timestamp are written in ISO form. -/
def display : Value → String
  | .str s => s
  | .date d => d.iso
  | .timestamp t => t.iso " "
  | v => v.quoted

end Value

end ClientGen
