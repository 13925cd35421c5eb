import ClientGen.TypeExpr
import ClientGen.Table
import ClientGen.Document.Display
import ClientGen.Text.Integer

/-!
# The compiled API

What a specification compiles to: a table of models, one per definition, and a table of
services, one per tag, each holding its operations with their parameters and responses.
Models are keyed by their lowercase class name, services by their tag name. Descriptions,
examples and similar values are kept as the document wrote them.
-/
namespace ClientGen

/-- How a model is written. -/
inductive ModelKind where
  /-- An interface with properties and parents. -/
  | object
  /-- A set of constants. -/
  | enum
  /-- A name for an array type. -/
  | array
  /-- A name for any other type. -/
  | simple
  /-- A name for a union of types. -/
  | union
  deriving Repr, DecidableEq, Inhabited

/-- The shape of the value an operation returns, which decides how its body is read. -/
inductive ResultKind where
  | void
  | string
  | number
  | boolean
  | enum
  | object
  | primitiveArray
  | file
  | unknown
  deriving Repr, DecidableEq, Inhabited

/-- A property of an object model. -/
structure Member where
  /-- The property's name as the document writes it. -/
  name : Value
  /-- The key of the property in the generated interface, quoted when needed. -/
  key : String
  required : Bool
  description : Value
  type : TypeExpr
  isLast : Bool
  deriving Repr, Inhabited

/-- A constant of an enum model. -/
structure Constant where
  name : String
  /-- The value's text, single quotes escaped. -/
  value : String
  isLast : Bool
  deriving Repr, Inhabited

/-- A named definition of the document. -/
structure Model where
  /-- The definition's key. -/
  name : Value
  className : String
  fileName : String
  description : Value
  kind : ModelKind
  members : List Member
  /-- Class names of the models this one extends. -/
  parents : List String
  /-- Class names of the models that extend this one. -/
  subclasses : List String
  /-- Class names of the models this one uses, in first-use order. -/
  dependencies : List String
  constants : List Constant
  elementType : Option TypeExpr
  aliasType : Option TypeExpr
  additionalType : Option TypeExpr
  /-- The example the definition gives, if any. -/
  sample : Value
  exampleFile : String
  isLast : Bool
  deriving Repr, Inhabited

/-- A parameter of an operation. -/
structure Parameter where
  name : Value
  /-- Where the parameter goes: `path`, `query`, `header`, `body` or `formData`. -/
  location : Value
  identifier : String
  /-- The identifier as the operation's body reaches it, through the container if any. -/
  access : String
  required : Bool
  type : TypeExpr
  description : Value
  collectionFormat : Value
  isArray : Bool
  /-- A form value that is sent as JSON. -/
  toJson : Bool
  isLast : Bool
  deriving Repr, Inhabited

/-- A declared response with a schema. -/
structure Response where
  code : String
  type : TypeExpr
  description : Value
  deriving Repr, Inhabited

/-- A path and method of a service. -/
structure Operation where
  name : String
  method : String
  /-- The key the path is filed under in the document, as it was given. -/
  path : Value
  /-- The path as the body of a template literal, placeholders replaced by parameters. -/
  pathExpression : String
  parameters : List Parameter
  responses : Table Response
  resultType : TypeExpr
  resultDescription : Option String
  resultKind : ResultKind
  returnsHeaders : Bool
  isMultipart : Bool
  /-- The class holding all parameters, when there are enough of them. -/
  paramsClass : Option String
  description : String
  deriving Repr, Inhabited

/-- The operations that share a tag. -/
structure Service where
  name : String
  serviceClass : String
  serviceFile : String
  description : Value
  operations : List Operation
  /-- Models used by parameters and successful responses. -/
  dependencies : List String
  /-- Models used by error responses. -/
  errorDependencies : List String
  isLast : Bool
  deriving Repr, Inhabited

/-- A compiled specification. -/
structure Api where
  models : Table Model
  services : Table Service
  rootUrl : String
  deriving Repr, Inhabited

namespace ModelKind

/-- Whether the model names another type. -/
def isAlias : ModelKind → Bool
  | .simple | .union => true
  | _ => false

end ModelKind

/-- Whether a response code is a 2xx status; digits that are not decimal digits cannot be
counted. -/
def successCode (code : String) : Except Fault Bool :=
  if Text.allDigits code then
    match Text.readInteger code with
    | some n => .ok (200 ≤ n && n < 300)
    | none => .error .badValue
  else .ok false

/-- How the body of a response is read. -/
def ResultKind.responseType : ResultKind → String
  | .file => "blob"
  | .void | .string | .number | .boolean | .enum => "text"
  | _ => "json"

end ClientGen
