import ClientGen.Document.Display

/-!
# Names in generated code

The rules that turn names from a specification into names of the generated TypeScript:
class names, file names, enum constants, identifiers, property keys and service names.
Identifier characters are ASCII letters, digits and underscores; case changes of other
characters follow Unicode's full mappings.

* `modelKey` files models and services case-insensitively.
* `fileName` writes a class name in kebab case: a dash before each character that follows
  a lowercase ASCII letter without being one.
* `className` drops characters that cannot stand in an identifier and capitalizes the
  character after each; a leading digit gets an underscore in front.
* `enumName` writes a value as an upper-case constant with underscores.
* `identifier` keeps ASCII letters and digits and capitalizes the one after each gap.
* `propertyKey` quotes a property name unless it is a bare identifier.
-/
namespace ClientGen.Naming

open Text

/-- The key that models and services are filed under: the lowercase name. -/
def modelKey (name : String) : String := Text.lower name

/-- Kebab case of the characters `cs`, where `afterLower` tells whether the character
before them was a lowercase ASCII letter. -/
def kebab (afterLower : Bool) : List Char → List Char
  | [] => []
  | c :: rest =>
    let lowerHere := isAsciiLower c
    (if !lowerHere && afterLower then ['-'] else []) ++ lowerChar c ++ kebab lowerHere rest

/-- The file stem of a class name: `PetStore` is `pet-store`, `HTTPClient` is
`httpclient`. -/
def fileName (typeName : String) : String := String.ofList (kebab false typeName.toList)

/-- The class-name characters of `cs` appended to `acc`, where `upNext` tells whether a
dropped character came just before. -/
def classChars (acc : List Char) (upNext : Bool) : List Char → List Char
  | [] => acc
  | c :: rest =>
    if !isWordChar c then classChars acc true rest
    else if upNext || acc.isEmpty then classChars (acc ++ [asciiUpper c]) false rest
    else classChars (acc ++ [c]) false rest

/-- A class name for any name: `the-user` is `TheUser`, `3d-model` is `_3dModel`. -/
def className (name : String) : String :=
  let cs := classChars [] false name.toList
  match cs with
  | c :: _ => if Text.isDigit c then String.ofList ('_' :: cs) else String.ofList cs
  | [] => ""

/-- The class name a reference points to, named by its last segment; nothing for the
empty reference. -/
def refClassName (ref : String) : Option String :=
  if ref.isEmpty then none else some (className (afterLast '/' ref))

/-- Upper case of `cs` with an underscore before each character that follows a lowercase
ASCII letter without being one. -/
def shout (afterLower : Bool) : List Char → List Char
  | [] => []
  | c :: rest =>
    let lowerHere := isAsciiLower c
    (if !lowerHere && afterLower then ['_'] else []) ++ upperChar c ++ shout lowerHere rest

/-- Every non-word character as an underscore, and runs of underscores as one. -/
def underscoreRuns : List Char → List Char
  | [] => []
  | c :: rest =>
    let c := if isWordChar c then c else '_'
    match underscoreRuns rest with
    | '_' :: more => if c = '_' then '_' :: more else c :: '_' :: more
    | more => c :: more

/-- The constant name of an enum value's text: `inStock` is `IN_STOCK`, `1st` is `_1ST`. -/
def enumNameOfText (v : String) : String :=
  let shouted := shout false v.toList
  let shouted :=
    match v.toList with
    | c :: _ => if Text.isDigit c || isBlank c then '_' :: shouted else shouted
    | [] => '_' :: shouted
  String.ofList (underscoreRuns shouted)

/-- The constant name of an enum value, from its plain text. -/
def enumName (value : Value) : String := enumNameOfText value.display

/-- The identifier characters of `cs` appended to `acc`, where `afterGap` tells whether a
dropped character came just before. -/
def identifierChars (acc : List Char) (afterGap : Bool) : List Char → List Char
  | [] => acc
  | c :: rest =>
    if isAsciiAlnum c then
      identifierChars (acc ++ [if afterGap then asciiUpper c else c]) false rest
    else identifierChars acc true rest

/-- An identifier from any text: `get/pets/{id}` is `getPetsId`, `pet_id` is `petId`. -/
def identifier (text : String) : String := String.ofList (identifierChars [] false text.toList)

/-- The service name of a tag: the tag, or the default when the tag is empty or false,
as a capitalized identifier. -/
def tagName (tag : Value) (default : Value) : String :=
  let chosen := if tag.truthy then tag else if default.truthy then default else .str "Api"
  capitalizeAscii (identifier chosen.display)

/-- A character that can start a bare property name. -/
def isKeyStart (c : Char) : Bool := c.isAlpha || c = '_' || c = '$'

/-- A character that can continue a bare property name. -/
def isKeyChar (c : Char) : Bool := c.isAlphanum || c = '_' || c = '$'

/-- Whether a name can stand unquoted as a property key; one line break may follow it. -/
def isBareKey (name : String) : Bool :=
  let cs := name.toList
  let body := if cs.getLast? = some '\n' then cs.dropLast else cs
  match body with
  | c :: rest => isKeyStart c && rest.all isKeyChar
  | [] => false

/-- A property name as a key of a TypeScript object type: bare when it can be, else in
double quotes with backslashes and quotes escaped. -/
def propertyKey (name : String) : String :=
  if isBareKey name then name
  else "\"" ++ replace (replace name "\\" "\\\\") "\"" "\\\"" ++ "\""

/-- The text a document value is read as when walked character by character: a text, or a
list of texts (or a mapping with text keys) read one member after another. Other values
cannot be walked as text. -/
def walkedText (v : Value) : Except Fault String := do
  let pieces ← v.members
  let texts ← pieces.mapM fun piece =>
    match piece with
    | .str s => .ok s
    | _ => .error .wrongOperand
  pure (String.join texts)

/-- The table key of a value that must be text. -/
def modelKeyOf : Value → Except Fault String
  | .str s => .ok (modelKey s)
  | _ => .error .missingOperation

/-- The class name of a value walked as text. -/
def classNameOf (v : Value) : Except Fault String := return className (← walkedText v)

/-- The file stem of a value walked as text. -/
def fileNameOf (v : Value) : Except Fault String := return fileName (← walkedText v)

/-- The identifier of text pieces read one after another: a piece that starts with an
ASCII letter or digit is kept whole, upper-cased when a dropped piece came just before it,
and any other piece is dropped. Pieces of one character each spell `identifier`. -/
def identifierPieces (acc : String) (afterGap : Bool) : List String → String
  | [] => acc
  | piece :: rest =>
    match piece.toList with
    | c :: _ =>
      if isAsciiAlnum c then
        identifierPieces (acc ++ if afterGap then upper piece else piece) false rest
      else identifierPieces acc true rest
    | [] => identifierPieces acc true rest

/-- The identifier of a value walked as text: the characters of a text, or the text
members of a list or the text keys of a mapping, each a piece. -/
def identifierOf (v : Value) : Except Fault String :=
  match v with
  | .str s => .ok (identifier s)
  | _ => do
    let pieces ← v.members
    let texts ← pieces.mapM fun piece =>
      match piece with
      | .str s => .ok s
      | _ => .error .wrongOperand
    pure (identifierPieces "" false texts)

/-- The class a reference value points to: nothing for a false value, and only text can
be cut into segments. -/
def refClassNameOf (v : Value) : Except Fault (Option String) :=
  if !v.truthy then .ok none
  else match v with
    | .str s => .ok (refClassName s)
    | _ => .error .missingOperation

/-- The property key of a value that must be text. -/
def propertyKeyOf : Value → Except Fault String
  | .str s => .ok (propertyKey s)
  | _ => .error .wrongOperand

end ClientGen.Naming
