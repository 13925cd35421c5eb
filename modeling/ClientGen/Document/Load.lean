import ClientGen.Json.Read
import ClientGen.Yaml.Construct

/-!
# Loading documents

A document file is UTF-8 text, read with its line ends normalised to `\n`. A name ending
in `.yaml` or `.yml`, in any case, is read as YAML; any other as JSON. A text that does not
parse, or whose document is not a mapping, cannot be compiled; the message names the
file.
-/
namespace ClientGen

namespace Load

/-- The suffix of a file name: from its last dot, unless the dot starts or ends the name. -/
def suffix (name : String) : String :=
  let base := Text.afterLast '/' name
  let cs := base.toList
  match (List.range cs.length).reverse.find? fun i => cs.getD i ' ' = '.' with
  | some i => if 0 < i && i + 1 < cs.length then String.ofList (cs.drop i) else ""
  | none => ""

/-- Whether a file is read as YAML. -/
def isYaml (name : String) : Bool :=
  let s := Text.lower (suffix name)
  s = ".yaml" || s = ".yml"

/-- The text with `\r\n` and lone `\r` line ends read as `\n`. -/
def normalizeLineEnds : List Char → List Char
  | '\r' :: '\n' :: rest => '\n' :: normalizeLineEnds rest
  | '\r' :: rest => '\n' :: normalizeLineEnds rest
  | c :: rest => c :: normalizeLineEnds rest
  | [] => []

/-- The value a file's text holds, read as its name says. -/
def parse (name text : String) : Except Fault Value :=
  let normalized := String.ofList (normalizeLineEnds text.toList)
  let unreadable : Fault := .documentLoad s!"{name}: cannot parse document"
  if isYaml name then
    match Yaml.read normalized with
    | .ok v => .ok v
    | .error (.malformedYaml _) => .error unreadable
    | .error f => .error f
  else
    match Json.read normalized with
    | some v => .ok v
    | none => .error unreadable

/-- The document a file's text holds, which must be a mapping. -/
def document (name text : String) : Except Fault Value := do
  let v ← parse name text
  match v with
  | .map _ => pure v
  | _ => throw (.documentLoad s!"{name}: the document must be a mapping")

/-- The text of UTF-8 bytes. -/
def decode (bytes : List UInt8) : Except Fault String :=
  match String.fromUTF8? (ByteArray.mk bytes.toArray) with
  | some s => .ok s
  | none => .error .invalidUtf8

/-- The document a file's bytes hold. -/
def documentOfBytes (name : String) (bytes : List UInt8) : Except Fault Value := do
  document name (← decode bytes)

end Load

end ClientGen
