/-!
# The journal of a run

What a run reports on its way, each event with a level.
-/

set_option autoImplicit false

namespace CodeGraph

inductive Level where
  | error
  | warn
  | info
  | debug
  | trace
  deriving DecidableEq

def Level.name : Level → String
  | error => "ERROR"
  | warn => "WARN"
  | info => "INFO"
  | debug => "DEBUG"
  | trace => "TRACE"

structure Event where
  level : Level
  text : String
  deriving DecidableEq

def Event.line (event : Event) : String :=
  event.level.name ++ " " ++ event.text

end CodeGraph
