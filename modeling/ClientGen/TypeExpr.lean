import ClientGen.Text.Edit
import ClientGen.Document.Value

/-!
# Type expressions

A type of the generated TypeScript, as text. A compound type (a union, an intersection, an
array, a tuple or an inline object) also records the names of the types it is built from,
in first-seen order and without repeats; those names find the models a type depends on,
and are never shown.

`stripWrappers` reduces a type's text to the name behind it: `null | Pet`, `Array<Pet>`
and `Pet[]` all name `Pet`.
-/
namespace ClientGen

/-- A type of the generated code: its text, and for a compound type the names of its
constituent types. -/
structure TypeExpr where
  text : String
  parts : Option (List String)
  deriving Repr, DecidableEq, Inhabited

namespace TypeExpr

/-- Drops leading `null|` and `undefined|` markers, as many as there are. -/
def dropNullMarkers : List Char → List Char
  | 'n' :: 'u' :: 'l' :: 'l' :: '|' :: rest => dropNullMarkers rest
  | 'u' :: 'n' :: 'd' :: 'e' :: 'f' :: 'i' :: 'n' :: 'e' :: 'd' :: '|' :: rest =>
    dropNullMarkers rest
  | cs => cs

/-- Drops `Array<…>` wrappers, as many as enclose the whole text. -/
def dropArrayWrappers : List Char → List Char
  | 'A' :: 'r' :: 'r' :: 'a' :: 'y' :: '<' :: rest =>
    if rest.getLast? = some '>' then dropArrayWrappers rest.dropLast
    else 'A' :: 'r' :: 'r' :: 'a' :: 'y' :: '<' :: rest
  | cs => cs
  termination_by cs => cs.length
  decreasing_by simp only [List.length_dropLast, List.length_cons]; omega

end TypeExpr

/-- The name behind a type's text: spaces removed, nullable markers dropped, and unless
`nullableOnly`, array wrappers and a trailing `[…]` removed too. -/
def stripWrappers (text : String) (nullableOnly : Bool) : String :=
  let cs := TypeExpr.dropNullMarkers (text.toList.filter (· ≠ ' '))
  if cs.isEmpty || nullableOnly then String.ofList cs
  else
    let cs := TypeExpr.dropArrayWrappers cs
    match Text.findIndex? ['['] cs with
    | some (pos + 1) => String.ofList (cs.take (pos + 1))
    | _ => String.ofList cs

namespace TypeExpr

/-- A type with no recorded constituents. -/
def scalar (text : String) : TypeExpr := ⟨text, none⟩

/-- Whether the type records its constituents. -/
def isCompound (t : TypeExpr) : Bool := t.parts.isSome

/-- The names a type contributes to a compound built on it: its constituents, or its own
text. -/
def ownNames (t : TypeExpr) : List String := t.parts.getD [t.text]

/-- Appends the names not yet present, in order. -/
def addNew (acc : List String) : List String → List String
  | [] => acc
  | n :: rest => addNew (if acc.contains n then acc else acc ++ [n]) rest

/-- The constituents of several types together, first-seen order, no repeats. -/
def mergeNames (ts : List TypeExpr) : List String :=
  ts.foldl (fun acc t => addNew acc t.ownNames) []

/-- A compound type with the given text over the given constituents. -/
def compound (text : String) (ts : List TypeExpr) : TypeExpr := ⟨text, some (mergeNames ts)⟩

/-- The types joined by `separator`, as a compound over them. -/
def join (separator : String) (ts : List TypeExpr) : TypeExpr :=
  compound (separator.intercalate (ts.map (·.text))) ts

/-- A union of types. -/
def union (ts : List TypeExpr) : TypeExpr := join " | " ts

/-- The names of the models a type may depend on. -/
def dependencyNames (t : TypeExpr) : List String :=
  match t.parts with
  | some ps => ps
  | none => [stripWrappers t.text false]

/-- The one type name behind a type, or `object` for a compound of several. -/
def bareName (t : TypeExpr) (nullableOnly : Bool) : String :=
  match t.parts with
  | some [p] => stripWrappers p nullableOnly
  | some _ => "object"
  | none => stripWrappers t.text nullableOnly

/-- A type written out as a document: its text, and its constituents or null. -/
def toDocument (t : TypeExpr) : Value :=
  Value.object [("text", .str t.text),
    ("all_types", (t.parts.map fun ps => Value.list (ps.map Value.str)).getD .null)]

end TypeExpr

end ClientGen
