import ClientGen.Api.Dependencies
import ClientGen.Schema.Resolve
import ClientGen.Reference
import ClientGen.Config
import ClientGen.Document.Order
import ClientGen.Log

/-!
# The service table

Every method of every path becomes an operation of the service named by its first tag.
An operation is named by its `operationId`, made unique within its service, or by a name
built from its method and path. Its parameters are those it declares followed by those of
its path; with enough of them they travel in one container object. Its responses with a
schema give its result type, and the type's shape decides how the response body is read.
Each operation carries a documentation block assembled from its summary, description,
parameters and result.
-/
namespace ClientGen

namespace Operations

/-- The first item of a value that is given: the first item of a list, the first
character of a text, the entry under `0` of a mapping or the first byte of a byte string.
A false value gives null. -/
def firstItem (tags : Value) : Except Fault Value :=
  if !tags.truthy then .ok .null
  else match tags with
    | .list (t :: _) => .ok t
    | .str s => .ok (.str (Text.takeChars s 1))
    | .map entries =>
      match Value.entryOf entries (.int 0) with
      | some t => .ok t
      | none => .error .missingKey
    | .bytes (b :: _) => .ok (.int b.toNat)
    | _ => .error .wrongOperand

/-- The first name `base_1`, `base_2`, … not in `known`; `fuel` names are tried, and
`known.length + 1` of them always hold a free one. -/
def firstFree (known : List String) (base : String) : Nat → Nat → String
  | 0, i => s!"{base}_{i}"
  | fuel + 1, i =>
    let name := s!"{base}_{i}"
    if known.contains name then firstFree known base fuel (i + 1) else name

/-- The name built from a method and the key of its path, which only a text can extend. -/
def builtName (method : String) (url : Value) : Except Fault String :=
  match url with
  | .str u => .ok (Naming.identifier (method ++ u))
  | _ => .error .wrongOperand

/-- The unique name of an operation among the names `known` in its service: the declared
`operationId`, or one built from the method and the path; a name already taken gets the
first free numbered suffix. A built name and a taken name are reported. -/
def operationId (given : Value) (method : String) (url : Value) (known : List String) :
    Logged String := do
  let generated := given matches .null
  let base ← Logged.lift (if generated then builtName method url
    else Naming.identifierOf given)
  let duplicated := known.contains base
  let name := if duplicated then firstFree known base (known.length + 1) 1 else base
  if generated then
    Logged.note .warning .operations
      s!"Operation '{method}' on '{url.display}' defines no operationId. Assuming '{name}'."
  else if duplicated then
    Logged.note .warning .operations
      s!"Operation '{method}' on '{url.display}' defines a duplicated operationId: {given.display}. Assuming '{name}'."
  pure name

/-- A parameter, followed through references first. Its type is that of its schema, or
of the parameter itself when it has none. A path parameter is always required, and a form
value that is neither an enum, a file nor text is sent as JSON. -/
def parameter (doc : Value) (inContainer : Bool) (raw : Value) : Except Fault Parameter := do
  let param ← Reference.follow doc raw
  let location ← param.getD "in" (.str "")
  let name ← param.getD "name" (.str "")
  let type ← match param.field "schema" with
    | some .null | none => param.schemaType s!"#/parameters/{name.display}"
    | some schema => schema.schemaType s!"#/parameters/{name.display}/schema"
  let identifier ← Naming.identifierOf name
  let bare := type.bareName true
  let field (key : String) : Value := (param.field key).getD .null
  pure {
    name, location, identifier
    access := (if inContainer then "params." else "") ++ identifier
    required := (field "required" matches .bool true) || location.same (.str "path")
    type
    description := field "description"
    collectionFormat := field "collectionFormat"
    isArray := (field "type").same (.str "array")
    toJson := location.same (.str "formData") && !(field "enum").truthy &&
      !(["Blob", "string"].contains bare)
    isLast := false }

/-- The items with the last one marked by `mark`. -/
def markLast {α : Type} (mark : α → α) : List α → List α
  | [] => []
  | [x] => [mark x]
  | x :: rest => x :: markLast mark rest

/-- Parameters in their order: by name upward for `asc`, downward for `desc`, as declared
otherwise; then the required ones first, each group keeping its order. -/
def sortParameters (order : String) (ps : List Parameter) : Except Fault (List Parameter) := do
  let ps ← if order = "asc" then sortByName (·.name) false ps
    else if order = "desc" then sortByName (·.name) true ps
    else pure ps
  pure (ps.filter (·.required) ++ ps.filter (!·.required))

/-- The placeholders `{name}` of a path replaced by `expand name`. `inside` holds the
characters of an open placeholder, last first; one that is never closed, or holds
nothing, stays as written. -/
def expandPlaceholders (expand : String → String) : Option (List Char) → List Char → List Char
  | none, [] => []
  | none, '{' :: rest => expandPlaceholders expand (some []) rest
  | none, c :: rest => c :: expandPlaceholders expand none rest
  | some inside, [] => '{' :: inside.reverse
  | some [], '}' :: rest => '{' :: '}' :: expandPlaceholders expand none rest
  | some inside, '}' :: rest =>
    (expand (String.ofList inside.reverse)).toList ++ expandPlaceholders expand none rest
  | some inside, c :: rest => expandPlaceholders expand (some (c :: inside)) rest

/-- The text of a path's key that placeholders are looked for in: a false key stands for the
empty path, and any other key must be a text. -/
def pathText (url : Value) : Except Fault String :=
  if !url.truthy then .ok ""
  else match url with
    | .str u => .ok u
    | _ => .error .wrongOperand

/-- The path as the body of a template literal: each placeholder becomes the encoded value
of the parameter of that name (the last one, when several share it), or of a variable
named like the placeholder. Parameter names must be usable as keys. -/
def pathExpression (ps : List Parameter) (inContainer : Bool) (url : Value) :
    Except Fault String :=
  if !ps.all (·.name.isKey) then .error .wrongOperand
  else do
    let text ← pathText url
    let scope := if inContainer then "params." else ""
    let expand (placeholder : String) : String :=
      let target := match (ps.reverse.find? fun p => p.name.same (.str placeholder)) with
        | some p => p.identifier
        | none => placeholder
      "$\x7bencodeURIComponent(" ++ scope ++ target ++ ")\x7d"
    .ok (String.ofList (expandPlaceholders expand none text.toList))

/-- What the declared responses give: the responses with a schema, the types and the
descriptions of the successful ones, and whether a successful one declares headers. -/
structure Outcome where
  responses : Table Response
  types : List TypeExpr
  descriptions : List Value
  headers : Bool

/-- Reads one declared response into `acc`. -/
def addResponse (doc : Value) (acc : Outcome) (entry : Value × Value) : Except Fault Outcome := do
  let code := entry.1.display
  let response ← Reference.follow doc entry.2
  match response with
  | .map _ =>
    match response.field "schema" with
    | some .null | none => pure acc
    | some schema =>
      let type ← schema.schemaType s!"#/responses/{code}/schema"
      let description := (response.field "description").getD .null
      let acc ← if ← successCode code then
          pure { acc with
            types := acc.types ++ [type]
            descriptions := if description.truthy then acc.descriptions ++ [description]
              else acc.descriptions
            headers := acc.headers || (response.field "headers").any Value.truthy }
        else pure acc
      pure { acc with responses := acc.responses.put code ⟨code, type, description⟩ }
  | _ => pure acc

/-- The result type of successful responses: the one type, a union of several, or `null`
for none. -/
def resultType : List TypeExpr → TypeExpr
  | [] => .scalar "null"
  | [t] => t
  | ts => .union ts

/-- The descriptions of successful responses joined by ` or `, which only texts can be. -/
def resultDescription (descriptions : List Value) : Except Fault (Option String) := do
  let texts ← descriptions.mapM fun d =>
    match d with
    | .str s => .ok s
    | _ => .error .wrongOperand
  pure (if texts.isEmpty then none else some (" or ".intercalate texts))

/-- The shape of a result type, seen through the model it names: an alias model stands for
the type it names. -/
def classify (models : Table Model) (t : TypeExpr) : ResultKind :=
  let model := models.get? (Naming.modelKey (t.bareName false))
  let actual := match model with
    | some m => if m.kind.isAlias then m.aliasType.getD t else t
    | none => t
  let text := actual.text
  if text = "null" || text = "void" then .void
  else if text = "string" then .string
  else if text = "number" then .number
  else if text = "boolean" then .boolean
  else if text = "Blob" then .file
  else match model with
    | some m => if m.kind = .enum then .enum else if m.kind = .object then .object else .unknown
    | none =>
      if Text.contains t.text "Array<" || Text.contains t.text "[]" then .primitiveArray
      else .unknown

/-- The text of an optional description, empty when it is false. -/
def describe (v : Value) : String := if v.truthy then v.display else ""

/-- The lines of a parameter's description inside a container's list. -/
def containerLines : Nat → List String → String
  | _, [] => ""
  | i, line :: rest =>
    (if line = "" then "\n" else (if i = 0 then "" else "  ") ++ line ++ "\n") ++
      containerLines (i + 1) rest

/-- The parameters part of a documentation block: a line per parameter, or, with a
container, a list of the parameters the container holds. -/
def parametersDoc (serviceClass : String) (paramsClass : Option String) (ps : List Parameter) :
    Except Fault String :=
  match paramsClass with
  | none => .ok (String.join (ps.map fun p =>
      Text.stripEnd s!"\n@param {p.name.display} {describe p.description}"))
  | some cls => do
    let items ← ps.mapM fun p => do
      let text ← if p.description.truthy then
          match p.description with
          | .str s => pure (Text.strip s)
          | _ => throw .missingOperation
        else pure ""
      pure (s!"\n- `{p.name.display}`: " ++ containerLines 0 (Text.splitOn text "\n"))
    pure (s!"\n@param params The `{serviceClass}.{cls}` containing the following parameters:\n" ++
      String.join items)

/-- The documentation block of an operation: summary, description, parameters and result,
without line breaks around it. -/
def documentation (summary description serviceClass : String) (paramsClass : Option String)
    (ps : List Parameter) (result : Option String) : Except Fault String := do
  let head := if summary.isEmpty then description
    else if description.isEmpty then summary else summary ++ "\n\n" ++ description
  let params ← parametersDoc serviceClass paramsClass ps
  let returns := match result with
    | some r => if r.isEmpty then "" else "\n@return " ++ r
    | none => ""
  pure (Text.stripChar '\n' (head ++ params ++ returns))

/-- A text that is stripped, or the empty text for a false value. -/
def strippedText (v : Value) : Except Fault String :=
  if !v.truthy then .ok ""
  else match v with
    | .str s => .ok (Text.strip s)
    | _ => .error .missingOperation

/-- The first of two optional values that is true, or null. -/
def orElse (a b : Option Value) : Value :=
  match a with
  | some v => if v.truthy then v else b.getD .null
  | none => b.getD .null

/-- The declared parameters of a value given as a list, or nothing when it is false. -/
def listed (v : Value) : Except Fault (List Value) := if v.truthy then v.members else .ok []

/-- Builds one operation of the service of class `serviceClass`, whose operation names so
far are `known`. Its parameters are those it declares, then those of its path. -/
def operation (config : Config) (doc : Value) (models : Table Model) (serviceClass : String)
    (known : List String) (url : Value) (method : String) (definition pathItem : Value) :
    Logged (String × Operation) := do
  let id ← operationId ((definition.field "operationId").getD .null) method url known
  let declared ← Logged.lift (listed ((definition.field "parameters").getD .null))
  let shared ← Logged.lift (listed ((pathItem.field "parameters").getD .null))
  let raw := declared ++ shared
  let paramsClass := if (raw.length : Int) ≥ config.minParamsForContainer then
      some (Text.upper (Text.takeChars id 1) ++ Text.dropChars id 1 ++ "Params")
    else none
  let inContainer := paramsClass.isSome
  let built ← Logged.lift (raw.mapM (parameter doc inContainer))
  let sorted ← Logged.lift (sortParameters config.sortParams built)
  let ps := markLast (fun p => { p with isLast := true }) sorted
  let name := if config.camelCase then Text.lower (Text.takeChars id 1) ++ Text.dropChars id 1
    else id
  let expression ← Logged.lift (pathExpression ps inContainer url)
  let declaredResponses := (definition.field "responses").getD .null
  let entries ← match declaredResponses with
    | .map entries => pure entries
    | v => if v.truthy then throw .missingOperation else pure []
  let outcome ← Logged.lift (entries.foldlM (addResponse doc) ⟨[], [], [], false⟩)
  let result := resultType outcome.types
  let description ← Logged.lift (resultDescription outcome.descriptions)
  let summary ← Logged.lift (strippedText (orElse (definition.field "summary")
    (pathItem.field "summary")))
  let details ← Logged.lift (strippedText ((definition.field "description").getD .null))
  let text ← Logged.lift
    (documentation summary details serviceClass paramsClass ps description)
  pure (id, {
    name, method := Text.upper method, path := url, pathExpression := expression
    parameters := ps, responses := outcome.responses, resultType := result
    resultDescription := description, resultKind := classify models result
    returnsHeaders := outcome.headers
    isMultipart := ps.any (·.location.same (.str "formData"))
    paramsClass, description := text })

/-- The services built so far, with the operation names each has taken. -/
structure Draft where
  services : Table Service
  names : Table (List String)

/-- A new service for a tag. -/
def newService (config : Config) (tag : String) : Service :=
  let cls := Naming.className tag
  { name := tag, serviceClass := cls ++ "Service",
    serviceFile := Naming.fileName cls ++ config.serviceFileSuffix, description := .null,
    operations := [], dependencies := [], errorDependencies := [], isLast := false }

/-- Adds the operation of one method of a path to the service of its first tag. Path
parameters and vendor extensions are no methods, and a method that is not a mapping is
skipped. -/
def addMethod (config : Config) (doc : Value) (models : Table Model) (url : Value)
    (pathItem : Value) (draft : Draft) (entry : Value × Value) :
    Logged Draft := do
  let (key, definition) := entry
  let method ← match key with
    | .str m => pure m
    | _ => throw .missingOperation
  if method = "parameters" || Text.startsWith method "x-" then return draft
  let .map _ := definition | return draft
  let first ← Logged.lift (firstItem ((definition.field "tags").getD .null))
  let tag := Naming.tagName first (.str config.defaultTag)
  let service := (draft.services.get? tag).getD (newService config tag)
  let known := (draft.names.get? tag).getD []
  let (id, op) ← operation config doc models service.serviceClass known url method definition
    pathItem
  pure {
    services := draft.services.put tag { service with operations := service.operations ++ [op] }
    names := draft.names.put tag (known ++ [id]) }

/-- Adds the operations of one path, each built with the path's key as it was given. A path
that is not a mapping is skipped. -/
def addPath (config : Config) (doc : Value) (models : Table Model) (draft : Draft)
    (entry : Value × Value) : Logged Draft := do
  let (url, pathItem) := entry
  let .map methods := pathItem | return draft
  methods.foldlM (addMethod config doc models url pathItem) draft

/-- Gives the services the descriptions of the document's tags. -/
def describeServices (config : Config) (services : Table Service) (tags : List Value) :
    Table Service :=
  tags.foldl (fun services tag =>
    match tag with
    | .map _ =>
      let name := Naming.tagName ((tag.field "name").getD .null) (.str config.defaultTag)
      let description := (tag.field "description").getD .null
      if services.contains name && description.truthy then
        services.modify name fun s => { s with description }
      else services
    | _ => services) services

/-- The service table of a document, each service with the models it uses. -/
def build (config : Config) (doc : Value) (models : Table Model) : Logged (Table Service) := do
  let paths ← Logged.lift (doc.getD "paths" .null)
  let entries ← match paths with
    | .map entries => pure entries
    | v => if v.truthy then throw .missingOperation else pure []
  let draft ← entries.foldlM (addPath config doc models) ⟨[], []⟩
  let tags ← Logged.lift (listed ((doc.field "tags").getD .null))
  let services := describeServices config draft.services tags
  Logged.lift (services.mapM fun (key, s) => do
    let (deps, errorDeps) ← Dependencies.ofOperations models s.operations
    pure (key, { s with dependencies := deps, errorDependencies := errorDeps }))

end Operations

end ClientGen
