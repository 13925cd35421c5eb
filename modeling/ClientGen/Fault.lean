/-!
# Faults

Why a step of the generator stops. The first five carry a message written for the user;
the others name the cause of a failure whose wording is not part of the output.
-/
namespace ClientGen

/-- The stage of YAML reading that found a document malformed. -/
inductive YamlStage where
  /-- A character that may not appear in a document. -/
  | reader
  /-- Characters that do not form tokens. -/
  | scanner
  /-- Tokens that do not form nodes. -/
  | parser
  /-- Nodes that do not form one document: an unknown alias or anchor, or several
  documents. -/
  | composer
  /-- Nodes that do not form values: an unknown tag or a key that cannot be a key. -/
  | constructor
  deriving Repr, DecidableEq, Inhabited

/-- Why the generator stopped. -/
inductive Fault where
  /-- A document that cannot be compiled. -/
  | compilation (message : String)
  /-- A document that is not a Swagger 2.0 specification. -/
  | unsupportedDocument (message : String)
  /-- A reference to nothing, or a chain of references that loops. -/
  | unresolvedReference (message : String)
  /-- A file that cannot be read as a document. -/
  | documentLoad (message : String)
  /-- A configuration value of the wrong kind. -/
  | configuration (message : String)
  /-- An operation applied to a value that does not have it, such as a key looked up in a
  list. -/
  | missingOperation
  /-- An operand of the wrong kind, such as a number where text is iterated. -/
  | wrongOperand
  /-- A key that a lookup requires is absent. -/
  | missingKey
  /-- Text that does not spell a value of the kind asked for. -/
  | badValue
  /-- A number too large for the conversion asked for. -/
  | overflow
  /-- Nesting deeper than the reader accepts. -/
  | nestingTooDeep
  /-- Bytes that are not UTF-8. -/
  | invalidUtf8
  /-- A file stands where a directory is needed. -/
  | pathOccupied
  /-- A file stands where a directory is needed on the way to another path. -/
  | notADirectory
  /-- A directory stands where a file is written. -/
  | isADirectory
  /-- A configuration file that is not JSON. -/
  | malformedJson
  /-- Text that is not YAML, and the stage that found it so. -/
  | malformedYaml (stage : YamlStage)
  /-- An index past the end of a text or list. -/
  | outOfRange
  deriving Repr, DecidableEq, Inhabited

/-- The message of a fault that has one. -/
def Fault.message? : Fault → Option String
  | .compilation m | .unsupportedDocument m | .unresolvedReference m
  | .documentLoad m | .configuration m => some m
  | _ => none

/-- A reference that leads nowhere. -/
def Fault.unresolved (ref : String) : Fault :=
  .unresolvedReference s!"Unresolved reference: {ref}"

end ClientGen
