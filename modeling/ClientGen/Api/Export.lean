import ClientGen.Api.Basic

/-!
# The compiled API as a document

A compiled specification written out as a document, for tools that inspect what the
templates receive. Each table becomes a list in table order whose entries carry their key;
types are written with their constituents, and values kept from the specification are
written as they came.
-/
namespace ClientGen

/-- The name of a model kind. -/
def ModelKind.name : ModelKind → String
  | .object => "object"
  | .enum => "enum"
  | .array => "array"
  | .simple => "simple"
  | .union => "union"

/-- The name of a result kind. -/
def ResultKind.name : ResultKind → String
  | .void => "void"
  | .string => "string"
  | .number => "number"
  | .boolean => "boolean"
  | .enum => "enum"
  | .object => "object"
  | .primitiveArray => "primitive_array"
  | .file => "file"
  | .unknown => "unknown"

/-- A list of texts. -/
def textList (xs : List String) : Value := .list (xs.map .str)

/-- An optional type. -/
def typeOrNull : Option TypeExpr → Value
  | some t => t.toDocument
  | none => .null

/-- A property of a model. -/
def Member.toDocument (p : Member) : Value :=
  Value.object [("name", p.name), ("identifier", .str p.key), ("required", .bool p.required),
    ("description", p.description), ("type", p.type.toDocument), ("is_last", .bool p.isLast)]

/-- A constant of an enum. -/
def Constant.toDocument (c : Constant) : Value :=
  Value.object [("name", .str c.name), ("value", .str c.value), ("is_last", .bool c.isLast)]

/-- A model. -/
def Model.toDocument (m : Model) : Value :=
  Value.object [("name", m.name), ("model_class", .str m.className),
    ("model_file", .str m.fileName), ("description", m.description),
    ("kind", .str m.kind.name), ("properties", .list (m.members.map Member.toDocument)),
    ("parents", textList m.parents), ("subclasses", textList m.subclasses),
    ("dependencies", textList m.dependencies),
    ("enum_values", .list (m.constants.map Constant.toDocument)),
    ("element_type", typeOrNull m.elementType), ("alias_type", typeOrNull m.aliasType),
    ("additional_properties_type", typeOrNull m.additionalType), ("example", m.sample),
    ("example_file", .str m.exampleFile), ("is_last", .bool m.isLast)]

/-- A parameter. -/
def Parameter.toDocument (p : Parameter) : Value :=
  Value.object [("name", p.name), ("location", p.location), ("identifier", .str p.identifier),
    ("full_access", .str p.access), ("required", .bool p.required),
    ("type", p.type.toDocument), ("description", p.description),
    ("collection_format", p.collectionFormat), ("is_array", .bool p.isArray),
    ("to_json", .bool p.toJson), ("is_last", .bool p.isLast)]

/-- A response. -/
def Response.toDocument (r : Response) : Value :=
  Value.object [("code", .str r.code), ("type", r.type.toDocument),
    ("description", r.description),
    ("is_success", .bool (match successCode r.code with | .ok b => b | .error _ => false))]

/-- An operation. -/
def Operation.toDocument (o : Operation) : Value :=
  Value.object [("name", .str o.name), ("method", .str o.method), ("path", o.path),
    ("path_expression", .str o.pathExpression),
    ("parameters", .list (o.parameters.map Parameter.toDocument)),
    ("responses", .list (o.responses.map fun (_, r) => r.toDocument)),
    ("result_type", o.resultType.toDocument),
    ("result_description", match o.resultDescription with | some d => .str d | none => .null),
    ("result_kind", .str o.resultKind.name), ("response_type", .str o.resultKind.responseType),
    ("returns_headers", .bool o.returnsHeaders), ("is_multipart", .bool o.isMultipart),
    ("params_class", match o.paramsClass with | some c => .str c | none => .null),
    ("description", .str o.description)]

/-- A service. -/
def Service.toDocument (s : Service) : Value :=
  Value.object [("name", .str s.name), ("service_class", .str s.serviceClass),
    ("service_file", .str s.serviceFile), ("description", s.description),
    ("operations", .list (s.operations.map Operation.toDocument)),
    ("dependencies", textList s.dependencies),
    ("error_dependencies", textList s.errorDependencies), ("is_last", .bool s.isLast)]

/-- A table entry with its key added. -/
def keyed (key : String) (entry : Value) : Value :=
  match entry with
  | .map entries => .map (entries ++ [(.str "key", .str key)])
  | v => v

/-- A compiled specification. -/
def Api.toDocument (api : Api) : Value :=
  Value.object [
    ("models", .list (api.models.map fun (k, m) => keyed k m.toDocument)),
    ("services", .list (api.services.map fun (k, s) => keyed k s.toDocument)),
    ("root_url", .str api.rootUrl)]

end ClientGen
