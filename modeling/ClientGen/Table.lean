/-!
# Tables keyed by text

A table holds entries under text keys, in the order their keys were first entered. Putting
an entry under a key already present replaces it in place; removing an entry keeps the
order of the others.
-/
namespace ClientGen

/-- Entries under text keys, in the order their keys were first entered. -/
abbrev Table (α : Type) := List (String × α)

namespace Table

/-- The entry under a key. -/
def get? {α : Type} (t : Table α) (key : String) : Option α :=
  (t.find? (·.1 = key)).map (·.2)

/-- Whether a key is present. -/
def contains {α : Type} (t : Table α) (key : String) : Bool := t.any (·.1 = key)

/-- The table with `value` under `key`: in place when the key is present, else at the
end. -/
def put {α : Type} (t : Table α) (key : String) (value : α) : Table α :=
  if t.contains key then t.map fun e => if e.1 = key then (key, value) else e
  else t ++ [(key, value)]

/-- The table with the entry under `key` changed by `f`. -/
def modify {α : Type} (t : Table α) (key : String) (f : α → α) : Table α :=
  t.map fun e => if e.1 = key then (e.1, f e.2) else e

/-- The table without the entries under `key`. -/
def erase {α : Type} (t : Table α) (key : String) : Table α := t.filter (·.1 ≠ key)

/-- The keys, in order. -/
def keys {α : Type} (t : Table α) : List String := t.map (·.1)

/-- The entries' values, in order. -/
def values {α : Type} (t : Table α) : List α := t.map (·.2)

end Table

end ClientGen
