import ClientGen.Schema.Node

/-!
# Reading a schema into a tree

`SchemaNode.parse schema path` reads a schema object into a tree. The first rule that
applies decides the node:

1. a value that is not a mapping, or a `type` that is null, is a null node;
2. a `$ref` is a reference, an `x-type` an override;
3. a true `x-nullable` wraps the same schema without that key;
4. without a `type`: `anyOf` or `oneOf` make a union, `allOf` an intersection, `properties`
   or `additionalProperties` an object, and anything else is any type;
5. a list of types is a union of the same schema with each type in turn;
6. `array`, `object` and `file` are read as such, the five primitive names as primitives,
   and any other type name is any type with that name.

Each recursive call reads a smaller value: a member, the schema less one key, or the schema
with its list of types replaced by one member. So the weight of the schema bounds the depth,
and it serves as fuel.
-/
namespace ClientGen

namespace SchemaNode

/-- The type names read as primitives. -/
def primitiveNames : List String := ["string", "integer", "number", "boolean", "null"]

/-- Whether the value under a key is present and true. -/
def flag (schema : Value) (key : String) : Bool := (schema.field key).any Value.truthy

/-- The schema's entries without the text key `key`. -/
def withoutKey (schema : Value) (key : String) : Value :=
  match schema with
  | .map entries => .map (entries.filter fun entry => !entry.1.same (.str key))
  | v => v

/-- The schema with the value under the text key `key` replaced, in place. -/
def withKey (schema : Value) (key : String) (value : Value) : Value :=
  match schema with
  | .map entries => .map (Value.insertEntry entries (.str key) value)
  | v => v

/-- The declared properties of an object schema: none when `properties` is absent or
false; otherwise it must be a mapping. -/
def declaredProperties (schema : Value) : Except Fault (List (Value × Value)) :=
  match schema.field "properties" with
  | some (.map entries) => .ok entries
  | some p => if p.truthy then .error .missingOperation else .ok []
  | none => .ok []

/-- The property and required lists and additional-properties node of an object schema,
read with `parseAt` for the member schemas. -/
def parseObject (parseAt : Value → String → Except Fault SchemaNode) (schema : Value)
    (info : NodeInfo) : Except Fault SchemaNode := do
  let required := match schema.field "required" with
    | some r => if r.truthy then r else .list []
    | none => .list []
  let declared ← declaredProperties schema
  let path := info.path
  let properties ← declared.mapM fun (name, prop) => do
    let node ← parseAt prop s!"{path}/properties/{name.display}"
    let isRequired ← required.contains name
    pure (Property.mk name isRequired node)
  let additional ← match schema.field "additionalProperties" with
    | some (.map entries) => some <$> parseAt (.map entries) s!"{path}/additionalProperties"
    | some a =>
      if a.truthy then pure (some (.any ⟨s!"{path}/additionalProperties", .null⟩ none))
      else pure none
    | none => pure none
  let requiredList ← required.members
  pure (.object info properties requiredList additional)

/-- Reads one level of a schema at `path`, reading the schemas below it with `parseAt`. -/
def parseLevel (parseAt : Value → String → Except Fault SchemaNode) (schema : Value)
    (path : String) : Except Fault SchemaNode :=
  match schema with
  | .map _ =>
    let info : NodeInfo := ⟨path, (schema.field "description").getD .null⟩
    if let some .null := schema.field "type" then .ok (.null info)
    else if let some target := schema.fieldNotNull "$ref" then .ok (.ref info target)
    else if let some text := schema.fieldNotNull "x-type" then .ok (.override info text.display)
    else if flag schema "x-nullable" then
      (SchemaNode.nullable info) <$> parseAt (withoutKey schema "x-nullable") path
    else
      match schema.field "type" with
      | none =>
        if flag schema "anyOf" || flag schema "oneOf" then do
          let (kind, key) := if flag schema "anyOf" then (UnionKind.anyOf, "anyOf")
            else (UnionKind.oneOf, "oneOf")
          let members ← ((schema.field key).getD .null).members
          let variants ← members.zipIdx.mapM fun (v, i) =>
            parseAt v s!"{path}/{key}/{i}"
          pure (.union info kind variants)
        else if flag schema "allOf" then do
          let members ← ((schema.field "allOf").getD .null).members
          let kept := members.zipIdx.filter fun (v, _) => !flag v "x-nullable"
          let variants ← kept.mapM fun (v, i) => parseAt v s!"{path}/allOf/{i}"
          pure (.intersection info variants)
        else if schema.hasField "properties" || flag schema "additionalProperties" then
          parseObject parseAt schema info
        else .ok (.any info none)
      | some (.list types) => do
        let variants ← types.zipIdx.mapM fun (t, i) =>
          parseAt (withKey schema "type" t) s!"{path}/type/{i}"
        pure (.union info .typeList variants)
      | some t =>
        if t.same (.str "array") then
          match schema.field "items" with
          | some (.list items) => do
            let nodes ← items.zipIdx.mapM fun (v, i) => parseAt v s!"{path}/items/{i}"
            let additional ← match schema.field "additionalItems" with
              | some (.map entries) =>
                some <$> parseAt (.map entries) s!"{path}/additionalItems"
              | _ => pure none
            pure (.tuple info nodes ((schema.field "minItems").getD .null)
              ((schema.field "maxItems").getD .null) additional)
          | some .null | none => .ok (.array info (.any ⟨s!"{path}/items", .null⟩ none))
          | some items => (SchemaNode.array info) <$> parseAt items s!"{path}/items"
        else if t.same (.str "object") then parseObject parseAt schema info
        else if t.same (.str "file") then .ok (.file info)
        else if !t.isKey then .error .wrongOperand
        else
          match t with
          | .str name =>
            if primitiveNames.contains name then do
              let enum ← match schema.field "enum" with
                | some e => if e.truthy then some <$> e.members else pure none
                | none => pure none
              pure (.primitive info name enum ((schema.field "const").getD .null))
            else .ok (.any info (some name))
          | _ => .ok (.any info (some t.display))
  | _ => .ok (.null ⟨path, .null⟩)

/-- Reads a schema at `path`, with `fuel` bounding the depth. -/
def parseWith : Nat → Value → String → Except Fault SchemaNode
  | 0, _, _ => .error .nestingTooDeep
  | fuel + 1, schema, path => parseLevel (parseWith fuel) schema path

/-- The tree of a schema at `path`. -/
def parse (schema : Value) (path : String) : Except Fault SchemaNode :=
  parseWith (schema.weight + 1) schema path

end SchemaNode

end ClientGen
