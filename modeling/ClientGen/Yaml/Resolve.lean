/-!
# The types of plain scalars

A plain scalar without a tag has the type its text spells, by the YAML 1.1 rules:

* null: empty, `~`, `null`, `Null`, `NULL`;
* Booleans: `yes no true false on off` in lower case, capitalized or upper case;
* integers: binary `0b…`, octal `0…`, decimal, hexadecimal `0x…` and base 60 `1:30`, with
  `_` between digits allowed;
* floats: decimals with a point and an optional signed exponent, base 60 with a point,
  and `.inf`, `.nan` in their three spellings;
* timestamps: a date `2001-12-14`, or a date and a time with an optional fraction and
  zone;
* `<<` merges mappings, and `=` is the value key.

Anything else is text.
-/
namespace ClientGen.Yaml

/-- A decimal digit. -/
def isDigitChar (c : Char) : Bool := '0' ≤ c && c ≤ '9'

/-- The characters after an optional sign. -/
def unsigned : List Char → List Char
  | '+' :: rest | '-' :: rest => rest
  | cs => cs

/-- Whether the characters are one or more of `ok`. -/
def allOf (ok : Char → Bool) (cs : List Char) : Bool := !cs.isEmpty && cs.all ok

/-- Whether the characters are an exponent `e+12`: a letter `e`, a sign and digits. -/
def isExponent : List Char → Bool
  | e :: s :: digits => (e = 'e' || e = 'E') && (s = '+' || s = '-') && allOf isDigitChar digits
  | _ => false

/-- Whether the characters are `:`-separated base 60 groups, each one digit or two digits
whose first is at most 5, at least one group. -/
def isSexagesimalTail (cs : List Char) : Bool :=
  match cs with
  | ':' :: rest =>
    let group := rest.takeWhile isDigitChar
    let after := rest.drop group.length
    let okGroup := match group with
      | [_] => true
      | [a, _] => decide (a ≤ '5')
      | _ => false
    okGroup && (after.isEmpty || isSexagesimalTail after)
  | _ => false
termination_by cs.length
decreasing_by
  simp only [List.length_cons, List.length_drop]
  omega

/-- Whether a text is a YAML 1.1 float. -/
def isFloatText (s : String) : Bool :=
  let cs := s.toList
  let body := unsigned cs
  let digitOrMark (c : Char) : Bool := isDigitChar c || c = '_'
  -- a decimal with a point: digits, the point, digits, an optional exponent
  let pointed :=
    match body with
    | c :: _ =>
      isDigitChar c &&
        (let whole := body.takeWhile digitOrMark
         match body.drop whole.length with
         | '.' :: rest =>
           let frac := rest.takeWhile digitOrMark
           let tail := rest.drop frac.length
           tail.isEmpty || isExponent tail
         | _ => false)
    | [] => false
  -- a fraction without digits before the point, and without a sign
  let bare :=
    match cs with
    | '.' :: c :: rest =>
      isDigitChar c &&
        (let frac := rest.takeWhile digitOrMark
         let tail := rest.drop frac.length
         tail.isEmpty || isExponent tail)
    | _ => false
  -- base 60 with a fractional part
  let sexagesimal :=
    match body with
    | c :: _ =>
      isDigitChar c &&
        (let whole := body.takeWhile digitOrMark
         let rest := body.drop whole.length
         let groups := rest.takeWhile (· ≠ '.')
         match rest.drop groups.length with
         | '.' :: frac => isSexagesimalTail groups && frac.all digitOrMark
         | _ => false)
    | [] => false
  let infinite := ["inf", "Inf", "INF"].any fun w => String.ofList body = "." ++ w
  let notANumber := ["nan", "NaN", "NAN"].any fun w => s = "." ++ w
  pointed || bare || sexagesimal || infinite || notANumber

/-- Whether a text is a YAML 1.1 integer. -/
def isIntText (s : String) : Bool :=
  let body := unsigned s.toList
  let binary := match body with
    | '0' :: 'b' :: rest => allOf (fun c => c = '0' || c = '1' || c = '_') rest
    | _ => false
  let octal := match body with
    | '0' :: rest => allOf (fun c => ('0' ≤ c && c ≤ '7') || c = '_') rest
    | _ => false
  let decimal := match body with
    | ['0'] => true
    | c :: rest => '1' ≤ c && c ≤ '9' && rest.all fun c => isDigitChar c || c = '_'
    | [] => false
  let hexadecimal := match body with
    | '0' :: 'x' :: rest =>
      allOf (fun c => isDigitChar c || ('a' ≤ c && c ≤ 'f') || ('A' ≤ c && c ≤ 'F') || c = '_') rest
    | _ => false
  let sexagesimal := match body with
    | c :: rest =>
      '1' ≤ c && c ≤ '9' &&
        (let whole := rest.takeWhile fun c => isDigitChar c || c = '_'
         isSexagesimalTail (rest.drop whole.length))
    | [] => false
  binary || octal || decimal || hexadecimal || sexagesimal

/-- The parts of a timestamp's text. -/
structure TimestampText where
  year : Nat
  month : Nat
  day : Nat
  /-- Hour, minute and second, when a time is given. -/
  time : Option (Nat × Nat × Nat)
  /-- The digits of the fraction of a second, possibly none. -/
  fraction : String
  /-- The zone: `none` for none, else whether `Z` was written, and the sign, hours and
  minutes of an offset. -/
  zone : Option (Option (Bool × Nat × Nat))
  deriving Repr, Inhabited

/-- The value of decimal digits. -/
def digitsValue (cs : List Char) : Nat :=
  cs.foldl (fun acc c => acc * 10 + (c.toNat - '0'.toNat)) 0

/-- One or two digits, then the rest. -/
def oneOrTwo (cs : List Char) : Option (Nat × List Char) :=
  let ds := cs.takeWhile isDigitChar
  if ds.length = 1 || ds.length = 2 then some (digitsValue ds, cs.drop ds.length) else none

/-- Exactly `n` digits, then the rest. -/
def exactly (n : Nat) (cs : List Char) : Option (Nat × List Char) :=
  let ds := cs.take n
  if ds.length = n && ds.all isDigitChar then some (digitsValue ds, cs.drop n) else none

/-- The zone of a timestamp: blanks, then `Z` or a signed offset, and nothing after. -/
def zoneText (cs : List Char) : Option (Option (Option (Bool × Nat × Nat))) :=
  let rest := cs.dropWhile fun c => c = ' ' || c = '\t'
  match rest with
  | [] => if cs.isEmpty then some none else none
  | ['Z'] => some (some none)
  | s :: more =>
    if s = '+' || s = '-' then do
      let (h, after) ← oneOrTwo more
      match after with
      | [] => some (some (some (s = '-', h, 0)))
      | ':' :: mins =>
        let (m, tail) ← exactly 2 mins
        if tail.isEmpty then some (some (some (s = '-', h, m))) else none
      | _ => none
    else none

/-- The parts of a timestamp's text: `YYYY-M-D`, optionally followed by `T` or blanks and a
time `H:MM:SS`, a fraction and a zone. -/
def timestampText (s : String) : Option TimestampText := do
  let cs := s.toList
  let (year, cs) ← exactly 4 cs
  let cs ← match cs with | '-' :: r => some r | _ => none
  let (month, cs) ← oneOrTwo cs
  let cs ← match cs with | '-' :: r => some r | _ => none
  let (day, cs) ← oneOrTwo cs
  if cs.isEmpty then return ⟨year, month, day, none, "", none⟩
  let cs ← match cs with
    | 'T' :: r | 't' :: r => some r
    | c :: r => if c = ' ' || c = '\t' then some (r.dropWhile fun c => c = ' ' || c = '\t') else none
    | [] => none
  let (hour, cs) ← oneOrTwo cs
  let cs ← match cs with | ':' :: r => some r | _ => none
  let (minute, cs) ← exactly 2 cs
  let cs ← match cs with | ':' :: r => some r | _ => none
  let (second, cs) ← exactly 2 cs
  let (fraction, cs) := match cs with
    | '.' :: r => (String.ofList (r.takeWhile isDigitChar), r.dropWhile isDigitChar)
    | _ => ("", cs)
  let zone ← zoneText cs
  pure ⟨year, month, day, some (hour, minute, second), fraction, zone⟩

/-- Whether a plain text is a timestamp: a date written `YYYY-MM-DD`, or a date and time. -/
def isTimestampText (s : String) : Bool :=
  match timestampText s with
  | some t => t.time.isSome || (s.length = 10)
  | none => false

/-- The tag a plain scalar's text implies. -/
def implicitTag (text : String) : String :=
  let standard := "tag:yaml.org,2002:"
  if ["", "~", "null", "Null", "NULL"].contains text then standard ++ "null"
  else if ["yes", "Yes", "YES", "no", "No", "NO", "true", "True", "TRUE", "false", "False",
      "FALSE", "on", "On", "ON", "off", "Off", "OFF"].contains text then standard ++ "bool"
  else if isFloatText text then standard ++ "float"
  else if isIntText text then standard ++ "int"
  else if text = "<<" then standard ++ "merge"
  else if isTimestampText text then standard ++ "timestamp"
  else if text = "=" then standard ++ "value"
  else standard ++ "str"

end ClientGen.Yaml
