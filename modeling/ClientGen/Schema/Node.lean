import ClientGen.Document.Display

/-!
# Schema trees

A schema object of a specification read as a tree of typed nodes, one kind of node per
way a schema can describe a type: a reference, a verbatim override, a nullable wrapper, a
union, an intersection, a primitive with optional literal values, a file, an array, a
tuple, an object, or anything. Every node remembers where in the document it stands and
the description written there, kept as the document gives it.
-/
namespace ClientGen

/-- Where a node stands in the document, and the description written there. -/
structure NodeInfo where
  path : String
  description : Value
  deriving Repr, Inhabited

/-- How the variants of a union were written. -/
inductive UnionKind where
  | oneOf
  | anyOf
  /-- A `type` given as a list of type names. -/
  | typeList
  deriving Repr, DecidableEq, Inhabited

mutual
/-- A schema read as a tree. -/
inductive SchemaNode where
  /-- A missing schema, or one whose type is explicitly null. -/
  | null (info : NodeInfo)
  /-- A reference to a definition; the target is kept as written. -/
  | ref (info : NodeInfo) (target : Value)
  /-- A type given verbatim. -/
  | override (info : NodeInfo) (text : String)
  /-- A schema that also admits null. -/
  | nullable (info : NodeInfo) (inner : SchemaNode)
  | union (info : NodeInfo) (kind : UnionKind) (variants : List SchemaNode)
  /-- An inline composition of schemas, nullable members left out. -/
  | intersection (info : NodeInfo) (variants : List SchemaNode)
  /-- A string, integer, number, boolean or null type, with optional literal values. -/
  | primitive (info : NodeInfo) (typeName : String) (enum : Option (List Value)) (const : Value)
  | file (info : NodeInfo)
  | array (info : NodeInfo) (items : SchemaNode)
  /-- An array with positional item types; the bounds are kept as written. -/
  | tuple (info : NodeInfo) (items : List SchemaNode) (minItems maxItems : Value)
      (additional : Option SchemaNode)
  /-- An object with declared properties and a type for other keys. -/
  | object (info : NodeInfo) (properties : List Property) (required : List Value)
      (additional : Option SchemaNode)
  /-- A schema whose type cannot be told, with the type name written, if any. -/
  | any (info : NodeInfo) (typeName : Option String)
  deriving Repr, Inhabited

/-- A declared property of an object: its name as written, whether it is required, and
its schema. -/
inductive Property where
  | mk (name : Value) (isRequired : Bool) (node : SchemaNode)
  deriving Repr, Inhabited
end

namespace SchemaNode

/-- Where a node stands and its description. -/
def info : SchemaNode → NodeInfo
  | .null i | .ref i _ | .override i _ | .nullable i _ | .union i _ _ | .intersection i _
  | .primitive i _ _ _ | .file i | .array i _ | .tuple i _ _ _ _ | .object i _ _ _
  | .any i _ => i

/-- The description written where the node stands. -/
def description (n : SchemaNode) : Value := n.info.description

end SchemaNode

namespace UnionKind

/-- The keyword a union was written with. -/
def keyword : UnionKind → String
  | .oneOf => "oneOf"
  | .anyOf => "anyOf"
  | .typeList => "typeArray"

end UnionKind

namespace SchemaNode

/-- A node kind's name and fields as a document entry list. -/
def entries (kind : String) (i : NodeInfo) (fields : List (String × Value)) : Value :=
  Value.object ([("kind", .str kind), ("source_path", .str i.path),
    ("description", i.description)] ++ fields)

mutual
/-- A schema tree written out as a document. -/
def toDocument : SchemaNode → Value
  | .null i => entries "NullNode" i []
  | .ref i t => entries "RefNode" i [("ref_path", t)]
  | .override i t => entries "TypeOverrideNode" i [("type_text", .str t)]
  | .nullable i inner => entries "NullableNode" i [("inner", toDocument inner)]
  | .union i k vs => entries "UnionNode" i
      [("union_type", .str k.keyword), ("variants", .list (listToDocument vs))]
  | .intersection i vs => entries "IntersectionNode" i [("variants", .list (listToDocument vs))]
  | .primitive i t e c => entries "PrimitiveNode" i
      [("type_name", .str t), ("enum", (e.map Value.list).getD .null), ("const", c)]
  | .file i => entries "FileNode" i []
  | .array i items => entries "ArrayNode" i [("items", toDocument items)]
  | .tuple i items lo hi extra => entries "TupleNode" i
      [("items", .list (listToDocument items)), ("min_items", lo), ("max_items", hi),
        ("additional_items", optionToDocument extra)]
  | .object i props req extra => entries "ObjectNode" i
      [("properties", .list (propertiesToDocument props)), ("required", .list req),
        ("additional_properties", optionToDocument extra)]
  | .any i t => entries "AnyNode" i [("type_name", (t.map Value.str).getD .null)]
/-- Schema trees written out. -/
def listToDocument : List SchemaNode → List Value
  | [] => []
  | n :: rest => toDocument n :: listToDocument rest
/-- An optional schema tree written out, or null. -/
def optionToDocument : Option SchemaNode → Value
  | none => .null
  | some n => toDocument n
/-- Properties written out, each with the path and description of its schema. -/
def propertiesToDocument : List Property → List Value
  | [] => []
  | .mk name req node :: rest =>
    entries "PropertyDef" node.info
      [("name", name), ("type_node", toDocument node), ("is_required", .bool req)] ::
      propertiesToDocument rest
end

end SchemaNode

end ClientGen
