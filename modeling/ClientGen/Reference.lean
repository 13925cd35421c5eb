import ClientGen.Document.Value
import ClientGen.Text.Integer

/-!
# Local references

A reference `#/a/b~1c` points into the document it appears in: each segment after `#/`
names a key of a mapping or an index of a list, with `~1` read as `/` and `~0` as `~`, and
empty segments skipped. A reference with no segments points at the document itself,
which is returned as an empty mapping.

* `resolve` follows one reference.
* `follow` follows a chain of references until it reaches a value that is not one, and
  refuses a chain that comes back to a reference it passed.
* `checkAll` resolves every reference of the document once, in a fixed depth-first order,
  and counts them.
* `expand` replaces every reference inside a value by its target, recursively, refusing a
  reference met again inside its own expansion.
-/
namespace ClientGen.Reference

/-- A reference that does not start with `#/`. -/
def notLocal (ref : String) : Fault :=
  .unresolvedReference s!"Resolved references must start with #/. Current: {ref}"

/-- A reference met again while it is being followed. -/
def circular (ref : String) : Fault :=
  .unresolvedReference s!"Circular reference: {ref}"

/-- The segments of a local reference after `#/`: empty ones skipped, escapes undone. -/
def segments (ref : String) : List String :=
  ((Text.splitOn (Text.dropChars ref 2) "/").filter (· ≠ "")).map fun part =>
    Text.replace (Text.replace part "~1" "/") "~0" "~"

/-- The member a segment names: the value of a mapping's key, or the item of a list at
an index written in digits. Digits that are not decimal digits cannot be counted. -/
def stepInto (node : Value) (part : String) : Except Fault (Option Value) :=
  match node with
  | .map entries => .ok (Value.entryOf entries (.str part))
  | .list items =>
    if Text.allDigits part then
      match Text.readInteger part with
      | some i => .ok (if i < items.length then items[i.toNat]? else none)
      | none => .error .badValue
    else .ok none
  | _ => .ok none

/-- The value at a path of segments below `node`. -/
def walk (ref : String) : Value → List String → Except Fault Value
  | node, [] => .ok node
  | node, part :: rest => do
    match ← stepInto node part with
    | some next => walk ref next rest
    | none => throw (Fault.unresolved ref)

/-- The value a local reference points to in `doc`. -/
def resolve (doc : Value) (ref : String) : Except Fault Value :=
  if !Text.startsWith ref "#/" then .error (notLocal ref)
  else
    match segments ref with
    | [] => .ok (.map [])
    | parts => walk ref doc parts

/-- The reference a value makes: the text under `$ref` of a mapping. -/
def refOf (v : Value) : Option String :=
  match v.field "$ref" with
  | some (.str ref) => some ref
  | _ => none

/-- Follows references from `node`, remembering those passed in `seen`; at most `fuel`
references are followed. -/
def followWith (doc : Value) : Nat → List String → Value → Except Fault Value
  | 0, _, _ => .error .nestingTooDeep
  | fuel + 1, seen, node =>
    match refOf node with
    | none => .ok node
    | some ref =>
      if seen.contains ref then .error (circular ref)
      else do followWith doc fuel (ref :: seen) (← resolve doc ref)

/-- The first value along a chain of references from `node` that is not a reference. A
chain passes each of the document's references at most once, so the document's weight
bounds its length. -/
def follow (doc node : Value) : Except Fault Value :=
  followWith doc (doc.weight + 2) [] node

/-- Resolves the references of the values on `stack`, taking the last one first and
pushing the members of mappings (but their references) and lists; `count` holds the
references resolved so far. -/
def checkStack (doc : Value) : Nat → List Value → Nat → Except Fault Nat
  | 0, _, _ => .error .nestingTooDeep
  | _ + 1, [], count => .ok count
  | fuel + 1, node :: stack, count =>
    match node with
    | .map entries => do
      let count ← match refOf node with
        | some ref => do let _ ← resolve doc ref; pure (count + 1)
        | none => pure count
      let members := (entries.filter fun entry => !entry.1.same (.str "$ref")).map (·.2)
      checkStack doc fuel (members.reverse ++ stack) count
    | .list items => checkStack doc fuel (items.reverse ++ stack) count
    | _ => checkStack doc fuel stack count

/-- Resolves every reference of the document once and counts them. The stack is kept with
its top first; each value is pushed and taken once, so the weight bounds the steps. -/
def checkAll (doc : Value) : Except Fault Nat :=
  checkStack doc (doc.weight + 2) [doc] 0

/-- A copy of `value` with every reference replaced by its expanded target; `seen` holds
the references being expanded around it. -/
def expandWith (doc : Value) : Nat → List String → Value → Except Fault Value
  | 0, _, _ => .error .nestingTooDeep
  | fuel + 1, seen, value =>
    match value with
    | .map entries =>
      match refOf value with
      | some ref =>
        if seen.contains ref then .error (circular ref)
        else do expandWith doc fuel (ref :: seen) (← resolve doc ref)
      | none => (Value.map) <$> entries.mapM fun (k, v) => do
          pure (k, ← expandWith doc fuel seen v)
    | .list items => (Value.list) <$> items.mapM (expandWith doc fuel seen)
    | v => .ok v

/-- A copy of `value` with every reference replaced by its target, recursively. A path of
expansions passes each reference at most once and walks down a value of the document
between two of them, so the square of the total weight bounds the depth. -/
def expand (doc value : Value) : Except Fault Value :=
  let w := doc.weight + value.weight + 2
  expandWith doc (w * w) [] value

end ClientGen.Reference
