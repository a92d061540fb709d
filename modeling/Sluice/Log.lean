/-!
# Log records

What is written to the log: a level, a message (or none) and named fields, all of them texts.
-/

namespace Sluice

/-- How important a record is. -/
inductive Level where
  | error | warn | info | debug | trace
deriving DecidableEq, Repr

def Level.name : Level → String
  | .error => "ERROR"
  | .warn => "WARN"
  | .info => "INFO"
  | .debug => "DEBUG"
  | .trace => "TRACE"

/-- A record of the log. -/
structure Record where
  level : Level
  message : Option String
  fields : List (String × String)
deriving DecidableEq, Repr

def Record.ofBool (b : Bool) : String := if b then "true" else "false"

end Sluice
