import ClientGen.Yaml.Compose
import ClientGen.Document.Value
import ClientGen.Decimal.Nearest
import ClientGen.Text.Integer

/-!
# YAML values

The last stage turns nodes into document values by their tags: null, Booleans, integers,
floats, timestamps, base64 byte strings, sets, ordered pairs, text, lists and mappings.
A mapping key must be a value that can be a key, and a key given twice keeps its first
place and its last value. The `<<` key merges the pairs of the mappings it names into its
mapping, before the pairs written there. A tag with no meaning is malformed; texts that do
not spell a value of their tag's type fail as the conversions they ask for fail.
-/
namespace ClientGen.Yaml

/-- Stops on nodes that do not form values. -/
def unconstructible {α : Type} : Except Fault α := .error (.malformedYaml .constructor)

/-- The text of a scalar node. -/
def scalarText : Node → Except Fault String
  | .scalar _ text => .ok text
  | _ => unconstructible

/-- The value of digits in a base, when every character is one of its digits. -/
def radixValue (base : Nat) (cs : List Char) : Option Nat :=
  if cs.isEmpty then none
  else cs.foldlM (fun acc c =>
    let d := if '0' ≤ c && c ≤ '9' then c.toNat - '0'.toNat
      else if 'a' ≤ c && c ≤ 'z' then c.toNat - 'a'.toNat + 10
      else if 'A' ≤ c && c ≤ 'Z' then c.toNat - 'A'.toNat + 10
      else base
    if d < base then some (acc * base + d) else none) 0

/-- An integer's text: a sign, then binary, hexadecimal, octal, base 60 or decimal digits;
underscores are dropped first. -/
def intValue (text : String) : Except Fault Int := do
  let cs := text.toList.filter (· ≠ '_')
  let (negative, body) := match cs with
    | '-' :: rest => (true, rest)
    | '+' :: rest => (false, rest)
    | _ => (false, cs)
  if cs.isEmpty then throw .outOfRange
  let sign : Int := if negative then -1 else 1
  let magnitude ← match body with
    | ['0'] => pure (0 : Int)
    | '0' :: 'b' :: digits => match radixValue 2 digits with
      | some n => pure (n : Int)
      | none => throw .badValue
    | '0' :: 'x' :: digits => match radixValue 16 digits with
      | some n => pure (n : Int)
      | none => throw .badValue
    | '0' :: digits => match radixValue 8 digits with
      | some n => pure (n : Int)
      | none => throw .badValue
    | _ =>
      if body.contains ':' then do
        let parts ← (String.ofList body).splitOn ":" |>.mapM fun part =>
          match Text.readInteger part with
          | some n => pure n
          | none => throw .badValue
        pure (parts.foldl (fun acc d => acc * 60 + d) 0)
      else match Text.readInteger (String.ofList body) with
        | some n => pure n
        | none => throw .badValue
  pure (sign * magnitude)

/-- The nearest float to a decimal text as a float conversion reads it: blanks around, a
sign, then `inf`, `infinity` or `nan` in any case, or digits with an optional point and
exponent. -/
def readFloat (text : String) : Option Float :=
  let cs := (Text.strip text).toList
  let (negative, body) := match cs with
    | '-' :: rest => (true, rest)
    | '+' :: rest => (false, rest)
    | _ => (false, cs)
  let word := String.ofList (body.map Char.toLower)
  let signed (x : Float) : Float := if negative then -x else x
  if word = "inf" || word = "infinity" then some (signed (1.0 / 0.0))
  else if word = "nan" then some (0.0 / 0.0)
  else
    let whole := body.takeWhile isDigitChar
    let rest := body.drop whole.length
    let (frac, rest) := match rest with
      | '.' :: r => (r.takeWhile isDigitChar, r.dropWhile isDigitChar)
      | _ => ([], rest)
    if whole.isEmpty && frac.isEmpty then none
    else
      let exponent : Option Int := match rest with
        | [] => some 0
        | e :: more =>
          if e = 'e' || e = 'E' then
            let (eneg, ed) := match more with
              | '-' :: r => (true, r)
              | '+' :: r => (false, r)
              | _ => (false, more)
            if allOf isDigitChar ed then
              some (if eneg then -(digitsValue ed : Int) else (digitsValue ed : Int))
            else none
          else none
      exponent.map fun e =>
        Float.ofBits (Decimal.nearestBits negative (digitsValue (whole ++ frac)) (e - frac.length))

/-- A float's text: a sign, then `.inf`, `.nan`, base 60 or a decimal; underscores are
dropped and case is ignored. -/
def floatValue (text : String) : Except Fault Float := do
  let lowered := String.ofList ((text.toList.filter (· ≠ '_')).map Char.toLower)
  let cs := lowered.toList
  if cs.isEmpty then throw .outOfRange
  let (negative, body) := match cs with
    | '-' :: rest => (true, rest)
    | '+' :: rest => (false, rest)
    | _ => (false, cs)
  let sign : Float := if negative then -1.0 else 1.0
  let rest := String.ofList body
  if rest = ".inf" then return sign * (1.0 / 0.0)
  if rest = ".nan" then return 0.0 / 0.0
  if body.contains ':' then
    let parts ← (rest.splitOn ":").mapM fun part =>
      match readFloat part with
      | some x => pure x
      | none => throw .badValue
    let (total, _) := parts.reverse.foldl (fun (acc : Float × Float) d =>
      (acc.1 + d * acc.2, acc.2 * 60.0)) (0.0, 1.0)
    return sign * total
  match readFloat rest with
  | some x => pure (sign * x)
  | none => throw .badValue

/-- Whether a year is a leap year. -/
def isLeap (y : Nat) : Bool := (y % 4 = 0 && y % 100 ≠ 0) || y % 400 = 0

/-- The number of days of a month. -/
def daysIn (y m : Nat) : Nat :=
  if m = 2 then (if isLeap y then 29 else 28)
  else if m = 4 || m = 6 || m = 9 || m = 11 then 30 else 31

/-- A timestamp's text as a date, or as a point in time with its zone; a date or time out
of range fails. -/
def timestampValue (text : String) : Except Fault Value := do
  let some t := timestampText text | throw .missingOperation
  if t.year < 1 || t.month < 1 || t.month > 12 || t.day < 1 || t.day > daysIn t.year t.month then
    throw .badValue
  let date : Date := ⟨t.year, t.month, t.day⟩
  match t.time with
  | none => pure (.date date)
  | some (h, m, s) =>
    if h > 23 || m > 59 || s > 59 then throw .badValue
    let micro := digitsValue ((t.fraction.toList.take 6) ++ List.replicate (6 - min 6 t.fraction.length) '0')
    let offset ← match t.zone with
      | none => pure none
      | some none => pure (some 0)
      | some (some (negative, zh, zm)) =>
        let secs : Int := (zh * 3600 + zm * 60 : Nat)
        if secs ≥ 86400 then throw .badValue
        pure (some (if negative then -secs else secs))
    pure (.timestamp ⟨date, h, m, s, micro, offset⟩)

/-- The value of a base64 character, if it is one. -/
def base64Value (c : Char) : Option Nat :=
  if 'A' ≤ c && c ≤ 'Z' then some (c.toNat - 'A'.toNat)
  else if 'a' ≤ c && c ≤ 'z' then some (c.toNat - 'a'.toNat + 26)
  else if '0' ≤ c && c ≤ '9' then some (c.toNat - '0'.toNat + 52)
  else if c = '+' then some 62
  else if c = '/' then some 63
  else none

/-- Decodes base64 leniently: characters outside the alphabet are skipped, and padding
ends the data once a group is complete; a group left incomplete fails. `quad` is the
place in the current group, `pads` the padding seen in it, `left` the bits waiting. -/
def base64Fuel (acc : List UInt8) (quad pads left : Nat) : List Char → Option (List UInt8)
  | [] => if quad = 0 then some acc else none
  | c :: rest =>
    if c = '=' then
      if quad ≥ 2 && quad + pads + 1 ≥ 4 then some acc
      else base64Fuel acc quad (pads + 1) left rest
    else
      match base64Value c with
      | none => base64Fuel acc quad pads left rest
      | some v =>
        match quad with
        | 0 => base64Fuel acc 1 0 v rest
        | 1 => base64Fuel (acc ++ [(left * 4 + v / 16).toUInt8]) 2 0 (v % 16) rest
        | 2 => base64Fuel (acc ++ [((left * 16 + v / 4) % 256).toUInt8]) 3 0 (v % 4) rest
        | _ => base64Fuel (acc ++ [((left * 64 + v) % 256).toUInt8]) 0 0 0 rest

/-- The bytes of a `!!binary` scalar, which must be ASCII base64. -/
def binaryValue (text : String) : Except Fault Value := do
  if !text.toList.all (·.toNat < 128) then unconstructible
  match base64Fuel [] 0 0 0 text.toList with
  | some bytes => pure (.bytes bytes)
  | none => unconstructible

/-- The pairs of a mapping with its `<<` merges done: the merged mappings' pairs come
first, a list of mappings merging the later ones first; `=` keys become text. -/
def flatten (fuel : Nat) (pairs : List (Node × Node)) : Except Fault (List (Node × Node)) := do
  match fuel with
  | 0 => throw .nestingTooDeep
  | fuel + 1 =>
    let mut merged : List (Node × Node) := []
    let mut kept : List (Node × Node) := []
    for (k, v) in pairs do
      if k.tag = standardPrefix ++ "merge" then
        match v with
        | .mapping _ inner => merged := merged ++ (← flatten fuel inner)
        | .sequence _ items =>
          let mut groups : List (List (Node × Node)) := []
          for item in items do
            match item with
            | .mapping _ inner => groups := groups ++ [← flatten fuel inner]
            | _ => unconstructible
          merged := merged ++ groups.reverse.flatten
        | _ => unconstructible
      else if k.tag = standardPrefix ++ "value" then
        match k with
        | .scalar _ text => kept := kept ++ [(.scalar (standardPrefix ++ "str") text, v)]
        | _ => kept := kept ++ [(k, v)]
      else kept := kept ++ [(k, v)]
    pure (merged ++ kept)

/-- The words of Booleans. -/
def boolWords : List (String × Bool) :=
  [("yes", true), ("no", false), ("true", true), ("false", false), ("on", true), ("off", false)]

mutual

/-- The value of a node; `fuel` bounds the nesting. -/
def construct (fuel : Nat) (n : Node) : Except Fault Value := do
  match fuel with
  | 0 => throw .nestingTooDeep
  | fuel + 1 =>
    let tag := n.tag
    let std (name : String) : Bool := tag = standardPrefix ++ name
    if std "null" then let _ ← scalarText n; pure .null
    else if std "bool" then
      let text ← scalarText n
      match boolWords.lookup (String.ofList (text.toList.map Char.toLower)) with
      | some b => pure (.bool b)
      | none => throw .missingKey
    else if std "int" then return .int (← intValue (← scalarText n))
    else if std "float" then return .ofFloat (← floatValue (← scalarText n))
    else if std "str" then return .str (← scalarText n)
    else if std "binary" then binaryValue (← scalarText n)
    else if std "timestamp" then timestampValue (← scalarText n)
    else if std "seq" then
      match n with
      | .sequence _ items => return .list (← constructItems fuel items)
      | _ => unconstructible
    else if std "map" then
      match n with
      | .mapping _ pairs => return .map (← constructPairs fuel (← flatten (fuel + 1) pairs) [])
      | _ => unconstructible
    else if std "set" then
      match n with
      | .mapping _ pairs =>
        let entries ← constructPairs fuel (← flatten (fuel + 1) pairs) []
        return .set (entries.map (·.1))
      | _ => unconstructible
    else if std "omap" || std "pairs" then
      match n with
      | .sequence _ items => return .list (← constructSinglePairs fuel items)
      | _ => unconstructible
    else unconstructible

/-- The values of nodes. -/
def constructItems (fuel : Nat) : List Node → Except Fault (List Value)
  | [] => .ok []
  | n :: rest => do
    let v ← construct fuel n
    return v :: (← constructItems fuel rest)

/-- The entries of a mapping's pairs added to `acc`: each key is built and checked before
its value. -/
def constructPairs (fuel : Nat) : List (Node × Node) → List (Value × Value) →
    Except Fault (List (Value × Value))
  | [], acc => .ok acc
  | (k, v) :: rest, acc => do
    let key ← construct fuel k
    if !key.isKey then unconstructible
    let value ← construct fuel v
    constructPairs fuel rest (Value.insertEntry acc key value)

/-- The pairs of an ordered mapping, each written as a mapping of one pair. -/
def constructSinglePairs (fuel : Nat) : List Node → Except Fault (List Value)
  | [] => .ok []
  | n :: rest => do
    match n with
    | .mapping _ [(k, v)] =>
      let key ← construct fuel k
      let value ← construct fuel v
      return .list [key, value] :: (← constructSinglePairs fuel rest)
    | _ => unconstructible

end

/-- The value of a YAML text: null for a stream without a document. -/
def read (text : String) : Except Fault Value := do
  let toks ← tokens text
  match ← document toks with
  | none => pure .null
  | some n => construct (toks.size + 2) n

end ClientGen.Yaml
