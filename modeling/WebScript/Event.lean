import WebScript.Json
import WebScript.OrderedMap
import WebScript.Outbound
import WebScript.Request

/-!
# Events

What happens around a script beside its response: lines of the log, requests sent to other hosts,
and the work of the template renderer and the widget compiler.
-/

namespace WebScript

/-- How much a line of the log matters. -/
inductive LogLevel where
  | error
  | warn
  | info
  | debug
  deriving DecidableEq

/-- The word for a level. -/
def LogLevel.word : LogLevel → String
  | .error => "ERROR"
  | .warn => "WARN"
  | .info => "INFO"
  | .debug => "DEBUG"

/-- The value of a field of a log line. -/
inductive LogValue where
  | text (s : String)
  | number (n : Nat)
  | flag (b : Bool)
  deriving DecidableEq

/-- A line of the log. -/
structure LogLine where
  level : LogLevel
  message : String
  fields : List (String × LogValue)
  deriving DecidableEq

/-- The arguments of a template by name. -/
abbrev Members := OrderedMap String Json

/-- Something that happened. -/
inductive Event where
  | logged (line : LogLine)
  /-- A request was handed to the transport. -/
  | sent (request : OutboundRequest)
  /-- The widgets were compiled. -/
  | compiled
  /-- A template was handed to the renderer. -/
  | rendered (method template : String) (args : Members)

end WebScript
