import ClientGen.Api.Dependencies
import ClientGen.Schema.Resolve
import ClientGen.Config
import ClientGen.Document.Order
import ClientGen.Log

/-!
# The model table

Each definition of the document that is a mapping becomes a model, filed under its
lowercase class name; a later definition with the same class name replaces an earlier one
in its place, with a warning. A definition is read as the first of these that fits:

1. an `allOf` composition: an object extending the models it references, or an enum
   with the composition's `enum` values, or else a name for `string`;
2. an array type, named with its element type;
3. a union of `anyOf` or `oneOf` variants, when no type is given;
4. an object, when no type or the type `object` is given;
5. a name for the type the schema stands for.

Then every object is linked to its parents, which record it among their subclasses, and
each model's dependencies are collected.
-/
namespace ClientGen

namespace Models

/-- The type of additional properties: the schema under `additionalProperties`, `any` for
any other true value. -/
def additionalType (schema : Value) (path : String) : Except Fault (Option TypeExpr) :=
  match schema.field "additionalProperties" with
  | some (.map entries) => some <$> (Value.map entries).schemaType s!"{path}/additionalProperties"
  | some v => .ok (if v.truthy then some (.scalar "any") else none)
  | none => .ok none

/-- The members of an object, sorted by name, the last one marked. -/
def members (properties : List (Value × Value)) (required : Value) (path : String) :
    Except Fault (List Member) := do
  let built ← properties.mapM fun (name, prop) => do
    let key ← Naming.propertyKeyOf name
    let isRequired ← required.contains name
    let description := match prop with
      | .map _ => (prop.field "description").getD .null
      | _ => .null
    let type ← prop.schemaType s!"{path}/properties/{name.display}"
    pure ({ name, key, required := isRequired, description, type, isLast := false } : Member)
  let sorted ← sortByName (·.name) false built
  pure (markLast sorted)
where
  /-- The members with the last one marked. -/
  markLast : List Member → List Member
    | [] => []
    | [m] => [{ m with isLast := true }]
    | m :: rest => m :: markLast rest

/-- The constants of an enum: each value's constant name and its text with single quotes
escaped, the last one marked. A value that cannot be counted has no constants. -/
def constants (values : Value) : Except Fault (List Constant) := do
  match values with
  | .list _ | .str _ | .map _ | .set _ | .bytes _ => pure ()
  | _ => throw .wrongOperand
  let items ← values.members
  let n := items.length
  pure (items.zipIdx.map fun (v, i) =>
    ⟨Naming.enumName v, Text.replace v.display "'" "\\'", i + 1 = n⟩)

/-- The entries of a mapping updated from a value: another mapping's entries, or a
sequence of key-value pairs. -/
def updateEntries (entries : List (Value × Value)) (source : Value) :
    Except Fault (List (Value × Value)) :=
  match source with
  | .map more => .ok (more.foldl (fun acc (k, v) => Value.insertEntry acc k v) entries)
  | _ => do
    let items ← source.members
    items.foldlM (fun acc item => do
      let pair ← item.members
      match pair with
      | [k, v] => if k.isKey then pure (Value.insertEntry acc k v) else throw .wrongOperand
      | _ => throw .badValue) entries

/-- What the branches of a composition contribute: parents, properties, required names and
the first type of additional properties. -/
structure Composition where
  parents : List String
  properties : List (Value × Value)
  required : List Value
  additional : Option TypeExpr

/-- Reads the branches of a composition, with their positions, into `acc`. -/
def composeBranches (path : String) (acc : Composition) :
    List (Value × Nat) → Except Fault Composition
  | [] => .ok acc
  | (branch, i) :: rest => do
    match branch with
    | .map _ =>
      let target := (branch.field "$ref").getD .null
      if target.truthy then
        let parent ← Naming.refClassNameOf target
        let parents := match parent with
          | some p => if p.isEmpty then acc.parents else acc.parents ++ [p]
          | none => acc.parents
        composeBranches path { acc with parents } rest
      else
        let props := (branch.field "properties").getD .null
        let properties ← if props.truthy then updateEntries acc.properties props
          else pure acc.properties
        let req := (branch.field "required").getD .null
        let names ← if req.truthy then req.members else pure []
        let required := names.foldl (fun r n => if r.any (·.same n) then r else r ++ [n])
          acc.required
        let additional ← match acc.additional with
          | some t => pure (some t)
          | none => additionalType branch s!"{path}/allOf/{i}"
        composeBranches path { acc with properties, required, additional } rest
    | _ => composeBranches path acc rest

/-- A model without a kind's details yet. -/
def blank (config : Config) (name : Value) (className : String) (schema : Value) : Model :=
  let stem := Naming.fileName className
  { name, className, fileName := stem ++ config.modelFileSuffix,
    description := (schema.field "description").getD .null, kind := .object, members := [],
    parents := [], subclasses := [], dependencies := [], constants := [], elementType := none,
    aliasType := none, additionalType := none, sample := (schema.field "example").getD .null,
    exampleFile := stem ++ config.exampleFileSuffix, isLast := false }

/-- The model of a composition. -/
def ofComposition (m : Model) (schema : Value) (path : String) : Except Fault Model := do
  let branches ← ((schema.field "allOf").getD .null).members
  let c ← composeBranches path ⟨[], [], [], none⟩ branches.zipIdx
  let enumValues := (schema.field "enum").getD .null
  if !c.parents.isEmpty || (!c.properties.isEmpty && !enumValues.truthy) then
    let ms ← members c.properties (.list c.required) path
    pure { m with
      kind := .object, parents := c.parents, members := ms, additionalType := c.additional }
  else if enumValues.truthy then
    pure { m with kind := .enum, constants := ← constants enumValues }
  else pure { m with kind := .simple, aliasType := some (.scalar "string") }

/-- The model of one definition. -/
def ofDefinition (config : Config) (name schema : Value) : Except Fault Model := do
  let className ← Naming.classNameOf name
  let m := blank config name className schema
  let path := s!"#/definitions/{name.display}"
  let flag (key : String) : Bool := (schema.field key).any Value.truthy
  if flag "allOf" then ofComposition m schema path
  else if (schema.field "type").any (·.same (.str "array")) then
    pure { m with kind := .array, elementType := some (← schema.schemaType path) }
  else if !schema.hasField "type" && (flag "anyOf" || flag "oneOf") then
    let key := if flag "anyOf" then "anyOf" else "oneOf"
    let variants ← ((schema.field key).getD .null).members
    let types ← variants.zipIdx.mapM fun (v, i) => v.schemaType s!"{path}/{key}/{i}"
    pure { m with kind := .union, aliasType := some (.join " |\n  " types) }
  else if !schema.hasField "type" || (schema.field "type").any (·.same (.str "object")) then
    let props := (schema.field "properties").getD .null
    let declared ← match props with
      | .map entries => pure entries
      | p => if p.truthy then throw .missingOperation else pure []
    let req := (schema.field "required").getD .null
    let ms ← members declared (if req.truthy then req else .list []) path
    pure { m with kind := .object, members := ms, additionalType := ← additionalType schema path }
  else pure { m with kind := .simple, aliasType := some (← schema.schemaType path) }

/-- Files every definition that is a mapping under its key, warning when a class name comes
again. -/
def collect (config : Config) (definitions : List (Value × Value)) : Logged (Table Model) :=
  definitions.foldlM (fun table (name, schema) => do
    match schema with
    | .map _ =>
      let m ← Logged.lift (ofDefinition config name schema)
      let key := Naming.modelKey m.className
      if let some old := table.get? key then
        Logged.note .warning .models
          s!"Definition '{name.display}' has the same class name as '{old.name.display}' ({m.className}). Using '{name.display}'."
      pure (table.put key m)
    | _ => pure table) []

/-- The refusal of a parent that is no model. -/
def unknownParent (m : Model) (parent : String) : Fault :=
  .unresolvedReference
    s!"Model '{m.name.display}' extends '{parent}', which is not a known model"

/-- Links one object model to its parents: each parent records it as a subclass, and its
parents are named by their class names. -/
def linkOne (table : Table Model) (key : String) : Except Fault (Table Model) := do
  let some m := table.get? key | pure table
  if m.kind ≠ .object || m.parents.isEmpty then return table
  let (table, linked) ← m.parents.foldlM (fun (table, linked) parentName => do
    let parentKey := Naming.modelKey parentName
    let some parent := table.get? parentKey | throw (unknownParent m parentName)
    let table := if parent.subclasses.contains m.className then table
      else table.modify parentKey fun p => { p with subclasses := p.subclasses ++ [m.className] }
    pure (table, linked ++ [parent.className])) (table, [])
  pure (table.modify key fun m => { m with parents := linked })

/-- Links every object model to its parents, in table order. -/
def link (table : Table Model) : Except Fault (Table Model) :=
  table.keys.foldlM linkOne table

/-- The model table of a document's definitions. -/
def build (config : Config) (definitions : Value) : Logged (Table Model) := do
  let entries ← match definitions with
    | .map entries => pure entries
    | v => if v.truthy then throw .missingOperation else pure []
  let table ← collect config entries
  let table ← Logged.lift (link table)
  pure (table.map fun (k, m) => (k, { m with dependencies := Dependencies.ofModel table m }))

end Models

end ClientGen
