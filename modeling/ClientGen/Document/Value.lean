import ClientGen.Fault
import ClientGen.Decimal.Shortest
import ClientGen.Text.Edit

/-!
# Document values

A document is a tree of values as JSON and YAML readers produce them: null, Booleans,
integers of any size, binary64 floats, text, lists and mappings, and from YAML also dates,
timestamps, byte strings and sets. A mapping keeps its entries in the order they were
first written; a key written twice keeps its first place and its last value.

Values compare the way documents compare: numbers by their numeric value across integers,
floats and Booleans (`true` is `1`), everything else by content. `Value.same` is that
equality; mapping keys are unique under it.
-/
namespace ClientGen

/-- A calendar date. -/
structure Date where
  year : Nat
  month : Nat
  day : Nat
  deriving Repr, DecidableEq, Inhabited

/-- A point in time, with its offset from UTC in seconds when one was written. -/
structure Timestamp where
  date : Date
  hour : Nat
  minute : Nat
  second : Nat
  microsecond : Nat
  offset : Option Int
  deriving Repr, DecidableEq, Inhabited

/-- A value of a document. A float is held by its bits. -/
inductive Value where
  | null
  | bool (b : Bool)
  | int (n : Int)
  | float (bits : UInt64)
  | str (s : String)
  | list (items : List Value)
  | map (entries : List (Value × Value))
  | date (d : Date)
  | timestamp (t : Timestamp)
  | bytes (data : List UInt8)
  | set (members : List Value)
  deriving Repr, Inhabited

namespace Value

/-- The float value `x`. -/
def ofFloat (x : Float) : Value := .float x.toBits

/-- A mapping with text keys. -/
def object (entries : List (String × Value)) : Value :=
  .map (entries.map fun (k, v) => (.str k, v))

/-- A value counts as true unless it is null, false, zero or empty. -/
def truthy : Value → Bool
  | .null => false
  | .bool b => b
  | .int n => n != 0
  | .float bits => !(Float.ofBits bits == 0)
  | .str s => !s.isEmpty
  | .list items => !items.isEmpty
  | .map entries => !entries.isEmpty
  | .date _ | .timestamp _ => true
  | .bytes data => !data.isEmpty
  | .set members => !members.isEmpty

/-- The name of a value's kind, as messages spell it. -/
def kindName : Value → String
  | .null => "NoneType"
  | .bool _ => "bool"
  | .int _ => "int"
  | .float _ => "float"
  | .str _ => "str"
  | .list _ => "list"
  | .map _ => "dict"
  | .date _ => "date"
  | .timestamp _ => "datetime"
  | .bytes _ => "bytes"
  | .set _ => "set"

/-- Values that can serve as mapping keys: all but lists, mappings and sets. -/
def isKey : Value → Bool
  | .list _ | .map _ | .set _ => false
  | _ => true

/-- An exact rational view of a number: `num / 2^shift`, when the value is a finite
number (`true` is `1`). -/
def asDyadic : Value → Option (Int × Nat)
  | .bool b => some (if b then 1 else 0, 0)
  | .int n => some (n, 0)
  | .float bits =>
    let x := Float.ofBits bits
    if x.isNaN || x.isInf then none
    else
      let b := Decimal.Binary.ofBits bits
      let magnitude : Int := if 0 ≤ b.q then (b.m * Nat.pow 2 b.q.toNat : Nat) else b.m
      let shift := if 0 ≤ b.q then 0 else (-b.q).toNat
      some (if x < 0 then -magnitude else magnitude, shift)
  | _ => none

/-- The integer part of a finite float, rounded toward zero, and whether nothing was
dropped; nothing for NaN and the infinities. -/
def floatInteger (bits : UInt64) : Option (Int × Bool) :=
  let x := Float.ofBits bits
  if x.isNaN || x.isInf then none
  else
    let b := Decimal.Binary.ofBits bits
    let (magnitude, exact) :=
      if 0 ≤ b.q then (b.m * Nat.pow 2 b.q.toNat, true)
      else (b.m / Nat.pow 2 (-b.q).toNat, b.m % Nat.pow 2 (-b.q).toNat = 0)
    some (if bits >>> 63 = 1 then -(magnitude : Int) else magnitude, exact)

/-- Whether two values are numbers of equal value. -/
def sameNumber (a b : Value) : Bool :=
  match a, b with
  | .float x, .float y => Float.ofBits x == Float.ofBits y
  | _, _ =>
    match a.asDyadic, b.asDyadic with
    | some (n, i), some (m, j) => n * Int.pow 2 j == m * Int.pow 2 i
    | _, _ => false

/-- Whether a value is a number (Booleans included). -/
def isNumber : Value → Bool
  | .bool _ | .int _ | .float _ => true
  | _ => false

mutual
/-- Equality of document values: numbers by value, mappings and sets regardless of order,
everything else by content. -/
def same : Value → Value → Bool
  | .null, .null => true
  | .str a, .str b => a == b
  | .list a, .list b => sameList a b
  | .map a, .map b => a.length == b.length && includedEntries a b
  | .set a, .set b => a.length == b.length && includedMembers a b
  | .date a, .date b => a == b
  | .timestamp a, .timestamp b => a == b
  | .bytes a, .bytes b => a == b
  | a, b => a.isNumber && b.isNumber && sameNumber a b
  termination_by a b => sizeOf a + sizeOf b
/-- Element-wise equality of two lists. -/
def sameList : List Value → List Value → Bool
  | [], [] => true
  | x :: xs, y :: ys => same x y && sameList xs ys
  | _, _ => false
  termination_by xs ys => sizeOf xs + sizeOf ys
/-- Whether every entry of the first mapping has an equal entry in the second. -/
def includedEntries : List (Value × Value) → List (Value × Value) → Bool
  | [], _ => true
  | (k, v) :: rest, other => hasEntry k v other && includedEntries rest other
  termination_by xs ys => sizeOf xs + sizeOf ys
/-- Whether the mapping holds the key with an equal value. -/
def hasEntry (k v : Value) : List (Value × Value) → Bool
  | [] => false
  | (k', v') :: rest => (same k k' && same v v') || hasEntry k v rest
  termination_by ys => sizeOf k + sizeOf v + sizeOf ys
/-- Whether every member of the first set is in the second. -/
def includedMembers : List Value → List Value → Bool
  | [], _ => true
  | x :: rest, other => hasMember x other && includedMembers rest other
  termination_by xs ys => sizeOf xs + sizeOf ys
/-- Whether the list holds a value equal to `x`. -/
def hasMember (x : Value) : List Value → Bool
  | [] => false
  | y :: rest => same x y || hasMember x rest
  termination_by ys => sizeOf x + sizeOf ys
end

mutual
/-- The number of values a value is built from, itself, keys and members included. -/
def weight : Value → Nat
  | .list items => 1 + weightList items
  | .map entries => 1 + weightEntries entries
  | .set members => 1 + weightList members
  | _ => 1
/-- The total weight of a list of values. -/
def weightList : List Value → Nat
  | [] => 0
  | x :: rest => weight x + weightList rest
/-- The total weight of the keys and values of a list of entries. -/
def weightEntries : List (Value × Value) → Nat
  | [] => 0
  | (k, v) :: rest => weight k + weight v + weightEntries rest
end

/-- The value under `key` in a list of entries. -/
def entryOf (entries : List (Value × Value)) (key : Value) : Option Value :=
  (entries.find? fun entry => same entry.1 key).map (·.2)

/-- The value under a text key of a mapping; nothing for other values. -/
def field (v : Value) (key : String) : Option Value :=
  match v with
  | .map entries => entryOf entries (.str key)
  | _ => none

/-- The value under a text key, where only a mapping can be asked. -/
def get (v : Value) (key : String) : Except Fault (Option Value) :=
  match v with
  | .map entries => .ok (entryOf entries (.str key))
  | _ => .error .missingOperation

/-- The value under a text key, or `default` when it is absent. -/
def getD (v : Value) (key : String) (default : Value) : Except Fault Value :=
  return (← v.get key).getD default

/-- Whether the mapping has the text key, whatever its value. -/
def hasField (v : Value) (key : String) : Bool := (v.field key).isSome

/-- The value under a text key, when present and not null. -/
def fieldNotNull (v : Value) (key : String) : Option Value :=
  match v.field key with
  | some .null | none => none
  | some x => some x

/-- The mapping with `key` set to `value`: in place when present, else at the end. -/
def insertEntry (entries : List (Value × Value)) (key value : Value) :
    List (Value × Value) :=
  if entries.any (fun entry => same entry.1 key) then
    entries.map fun entry => if same entry.1 key then (entry.1, value) else entry
  else entries ++ [(key, value)]

/-- The members a value yields when walked: the characters of a text, the items of a list,
the keys of a mapping, the members of a set, the bytes of a byte string. Other values
cannot be walked. -/
def members : Value → Except Fault (List Value)
  | .str s => .ok (s.toList.map fun c => .str (String.singleton c))
  | .list items => .ok items
  | .map entries => .ok (entries.map (·.1))
  | .set items => .ok items
  | .bytes data => .ok (data.map fun b => .int b.toNat)
  | _ => .error .wrongOperand

/-- Whether `item` is in `container`: a part of a text, an item of a list or set, a key of
a mapping. Text can only contain text, and a mapping or set only keys. -/
def contains (container item : Value) : Except Fault Bool :=
  match container with
  | .str s =>
    match item with
    | .str t => .ok (Text.contains s t)
    | _ => .error .wrongOperand
  | .list items => .ok (items.any (same item))
  | .map entries =>
    if item.isKey then .ok (entries.any fun entry => same entry.1 item)
    else .error .wrongOperand
  | .set items =>
    if item.isKey then .ok (items.any (same item)) else .error .wrongOperand
  | .bytes data =>
    match item with
    | .int n => .ok (data.any fun b => (b.toNat : Int) = n)
    | .bytes sub => .ok (sub.isEmpty || (List.range (data.length + 1)).any
        fun i => (data.drop i).take sub.length = sub)
    | _ => .error .wrongOperand
  | _ => .error .wrongOperand

/-- The text of a text value. -/
def asStr? : Value → Option String
  | .str s => some s
  | _ => none

end Value

end ClientGen
