import ClientGen.Fault

/-!
# Logs

What the generator reports while it runs: warnings about names it had to make up, notes on
what it left out, and the files it wrote. A `Logged` step returns its result or a fault,
and the records it made either way, so that what was reported before a fault is kept.
-/
namespace ClientGen

/-- How much a record matters. -/
inductive Level where
  | debug
  | info
  | warning
  deriving Repr, DecidableEq, Inhabited

/-- The part of the generator a record comes from. -/
inductive Origin where
  | compiler
  | models
  | operations
  | selection
  | writer
  | generator
  deriving Repr, DecidableEq, Inhabited

/-- One reported event. -/
structure LogRecord where
  level : Level
  origin : Origin
  message : String
  deriving Repr, Inhabited

/-- The name a level is printed with. -/
def Level.name : Level → String
  | .debug => "DEBUG"
  | .info => "INFO"
  | .warning => "WARNING"

/-- The name of the reporting part, as printed before a message. -/
def Origin.loggerName : Origin → String
  | .compiler => "swagger_to_code.pipeline.analyzer.compiler"
  | .models => "swagger_to_code.pipeline.analyzer.model_builder"
  | .operations => "swagger_to_code.pipeline.analyzer.operation_builder"
  | .selection => "swagger_to_code.pipeline.analyzer.tag_filter"
  | .writer => "swagger_to_code.pipeline.output.atomic_writer"
  | .generator => "swagger_to_code.pipeline.generator"

/-- A step that may fail and keeps the records it made. -/
abbrev Logged := ExceptT Fault (StateM (Array LogRecord))

namespace Logged

/-- Records an event. -/
def note (level : Level) (origin : Origin) (message : String) : Logged Unit :=
  modify fun records => records.push ⟨level, origin, message⟩

/-- A plain result or fault as a step. -/
def lift {α : Type} (r : Except Fault α) : Logged α :=
  match r with
  | .ok a => pure a
  | .error f => throw f

/-- Runs a step from no records: its outcome and the records made. -/
def run {α : Type} (step : Logged α) : Except Fault α × Array LogRecord :=
  (ExceptT.run step).run #[]

end Logged

end ClientGen
