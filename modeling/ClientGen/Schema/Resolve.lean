import ClientGen.Schema.Parse
import ClientGen.TypeExpr
import ClientGen.Naming

/-!
# The TypeScript type of a schema

`SchemaNode.resolve` writes the type a schema tree stands for:

* null is `null`, a reference the class it names, an override its text with `List<`
  read as `Array<`;
* a nullable schema is `null | T`, a union `A | B`, an intersection `A & B`;
* a string, integer or number with literal values is the union of those literals;
* a file is `Blob`, an array `Array<T>`, an object the record type of its members;
* a tuple is the union of its allowed lengths, `[A] | [A, B]`, with `any` after the
  declared items; a tuple without an upper bound is `Array<any>`;
* anything else is `any`.

Compound types record their constituents, so that the models a type depends on can be
found without reading its text.
-/
namespace ClientGen

namespace SchemaNode

/-- A string literal type: the value's text in single quotes, backslashes and quotes
escaped. -/
def stringLiteral (v : Value) : String :=
  "'" ++ Text.replace (Text.replace v.display "\\" "\\\\") "'" "\\'" ++ "'"

/-- A number literal type: an integral float without its fraction, else the value's
text. -/
def numberLiteral (v : Value) : String :=
  match v with
  | .float bits =>
    match Value.floatInteger bits with
    | some (n, true) => toString n
    | _ => v.display
  | _ => v.display

/-- The type of a primitive with optional literal values. -/
def primitiveType (typeName : String) (enum : Option (List Value)) (const : Value) : TypeExpr :=
  let literals (write : Value → String) (fallback : String) : TypeExpr :=
    match enum with
    | some (v :: vs) => .scalar (" | ".intercalate ((v :: vs).map write))
    | _ => match const with
      | .null => .scalar fallback
      | c => .scalar (write c)
  if typeName = "string" then literals stringLiteral "string"
  else if typeName = "integer" || typeName = "number" then literals numberLiteral "number"
  else if typeName = "boolean" then .scalar "boolean"
  else .scalar "null"

/-- A bound of a tuple as a count: an integer, or a Boolean read as `0` or `1`. -/
def asCount : Value → Option Int
  | .int n => some n
  | .bool b => some (if b then 1 else 0)
  | _ => none

/-- The first `k` members of a list, where a negative `k` leaves out the last `-k`. -/
def takeFront {α : Type} (xs : List α) (k : Int) : List α :=
  if 0 ≤ k then xs.take k.toNat else xs.take (xs.length - k.natAbs)

/-- The tuple types for every length from `lo` to `hi`, each written once. Lengths beyond
the list's own length, either way, give the same tuple as its end, so the lengths are
clamped before counting. -/
def tupleVariants (types : List TypeExpr) (lo hi : Int) : List String :=
  if hi < lo then []
  else
    let n : Int := types.length
    let clamp (k : Int) : Int := max (-n) (min n k)
    let a := clamp lo
    let b := clamp hi
    let lengths := (List.range (b - a + 1).toNat).map fun (i : Nat) => a + (i : Int)
    let texts := lengths.map fun k =>
      "[" ++ ", ".intercalate ((takeFront types k).map (·.text)) ++ "]"
    TypeExpr.addNew [] texts

/-- The type of a bounded tuple from its resolved item types; the bounds must be counts,
a false lower bound counting as zero. -/
def tupleType (itemTypes : List TypeExpr) (extra : TypeExpr) (lo hi : Value) :
    Except Fault TypeExpr :=
  let lo := if lo.truthy then lo else .int 0
  match asCount lo, asCount hi with
  | some a, some b =>
    let types := itemTypes ++ [extra]
    .ok (.compound (" | ".intercalate (tupleVariants types a b)) (takeFront types b))
  | _, _ => .error .wrongOperand

/-- The record type of an object from its members, written `key: T` or `key?: T`, and
`[key: string]: T` for other keys. -/
def objectType (members : List (String × TypeExpr)) (extra : Option TypeExpr) : TypeExpr :=
  let written := members.map (fun (key, t) => key ++ t.text) ++
    (extra.map fun t => ["[key: string]: " ++ t.text]).getD []
  let parts := members.map (·.2) ++ extra.toList
  .compound ("\x7b" ++ ", ".intercalate written ++ "\x7d") parts

mutual
/-- The type a schema tree stands for. -/
def resolve : SchemaNode → Except Fault TypeExpr
  | .null _ => .ok (.scalar "null")
  | .ref _ target => do
    let name ← Naming.refClassNameOf target
    pure (.scalar (match name with
      | some n => if n.isEmpty then "null" else n
      | none => "null"))
  | .override _ text =>
    let text := Text.replace text "List<" "Array<"
    .ok (.scalar (if text.isEmpty then "null" else text))
  | .nullable _ inner => do
    let t ← resolve inner
    pure ⟨"null | " ++ t.text, t.parts⟩
  | .union _ _ variants => return .union (← resolveList variants)
  | .intersection _ variants => return .join " & " (← resolveList variants)
  | .primitive _ name enum const => .ok (primitiveType name enum const)
  | .file _ => .ok (.scalar "Blob")
  | .array _ items => do
    let t ← resolve items
    pure (.compound ("Array<" ++ t.text ++ ">") [t])
  | .tuple _ items lo hi extra =>
    if !hi.truthy then .ok (.scalar "Array<any>")
    else do
      let itemTypes ← resolveList items
      let extraType ← resolveOption extra
      tupleType itemTypes (extraType.getD (.scalar "any")) lo hi
  | .object _ props _ extra => do
    let members ← resolveProperties props
    let extraType ← resolveOption extra
    pure (objectType members extraType)
  | .any _ _ => .ok (.scalar "any")
/-- The types of several trees. -/
def resolveList : List SchemaNode → Except Fault (List TypeExpr)
  | [] => .ok []
  | n :: rest => do
    let t ← resolve n
    let ts ← resolveList rest
    pure (t :: ts)
/-- The type of an optional tree. -/
def resolveOption : Option SchemaNode → Except Fault (Option TypeExpr)
  | none => .ok none
  | some n => some <$> resolve n
/-- Each property's key with its separator, and its type. -/
def resolveProperties : List Property → Except Fault (List (String × TypeExpr))
  | [] => .ok []
  | .mk name required node :: rest => do
    let t ← resolve node
    let key ← Naming.propertyKeyOf name
    let others ← resolveProperties rest
    pure ((key ++ (if required then ": " else "?: "), t) :: others)
end

end SchemaNode

/-- The type of a schema at `path`. -/
def Value.schemaType (schema : Value) (path : String) : Except Fault TypeExpr := do
  SchemaNode.resolve (← SchemaNode.parse schema path)

end ClientGen
