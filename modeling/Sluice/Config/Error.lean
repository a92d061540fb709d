import Sluice.Config.Position
import Sluice.Expr.Error
import Sluice.FileTree
import Sluice.Schema.Basic

/-!
# What is wrong with a configuration

A `StepError` belongs to one step: that step is then false, and everything else goes on.  A
`LoadError` means that there is no configuration at all.
-/

namespace Sluice

/-- What is wrong with the value of a directive. -/
inductive DirectiveFlaw where
  | notString | notCondition | notLabel
  | notAssignments | entryNotSingle (index : Nat)
  | notMapping | fieldsNotMapping (predicate : String) | paramsNotMapping (actual : Json)

def DirectiveFlaw.message : DirectiveFlaw → String
  | .notString => "must be a string"
  | .notCondition => "must be a boolean or an expression"
  | .notLabel => "must be a non-empty string"
  | .notAssignments => "must be a list of single-key mappings"
  | .entryNotSingle index => "entry " ++ toString index ++ " must be a single-key mapping"
  | .notMapping => "must be a mapping"
  | .fieldsNotMapping predicate => "fields of '" ++ predicate ++ "' must be a mapping"
  | .paramsNotMapping actual => "parameters must be a mapping, got " ++ actual.text

/-- What is wrong with a step, be it found while loading or while running. -/
inductive StepError where
  | conflicting (first second : String)
  | unknownPredicate (name : String)
  | malformed (directive : String) (flaw : DirectiveFlaw)
  | noContent
  | registeredPipe
  | unbound (directive : String) (cause : EvalError)
  | notBoolean (directive : String) (actual : Json)
  | rejected (plugin : String) (violations : List Schema.Violation)

/-- The wording of what is wrong with a step. -/
def StepError.message : StepError → String
  | .conflicting first second =>
    "'" ++ second ++ "' declared with '" ++ first ++ "' in the same step"
  | .unknownPredicate name => "Unknown predicate '" ++ name ++ "'"
  | .malformed directive flaw => "Invalid '" ++ directive ++ "': " ++ flaw.message
  | .noContent => "No predicate found"
  | .registeredPipe => "Cannot set 'register' on a 'pipe'"
  | .unbound directive cause => "Cannot bind '" ++ directive ++ "': " ++ cause.message
  | .notBoolean directive actual =>
    "'" ++ directive ++ "' is not boolean (got " ++ actual.text ++ ")"
  | .rejected plugin violations =>
    "Invalid params for '" ++ plugin ++ "': " ++
      String.intercalate "; " (violations.map Schema.Violation.message)

/-- What is wrong with the shape of a document. -/
inductive DocumentFlaw where
  | topNotList | includedNotList | entryNotMapping | stepNotMapping
  | includeNotPath | notAlone (key : String)
  | initNotFirst | initNotList | nameNotString | pipeNotList
  | badDefault (cause : StepError) | unexpectedKey (key : String) | noPipe

/-- The wording of what is wrong with a document. -/
def DocumentFlaw.message : DocumentFlaw → String
  | .topNotList => "top level must be a list"
  | .includedNotList => "included document must be a list"
  | .entryNotMapping => "entry must be a mapping"
  | .stepNotMapping => "step must be a mapping"
  | .includeNotPath => "'include' must be a file path"
  | .notAlone key => "'" ++ key ++ "' must be the only key of its entry"
  | .initNotFirst => "'init' must be the first entry"
  | .initNotList => "'init' must be a list"
  | .nameNotString => "'name' must be a string"
  | .pipeNotList => "'pipe' must be a list"
  | .badDefault cause => cause.message
  | .unexpectedKey key => "unexpected key '" ++ key ++ "' in pipe entry"
  | .noPipe => "entry has no 'pipe'"

/-- Why there is no configuration. -/
inductive LoadError where
  | unreadable (path : String) (fault : FileFault)
  | notYaml (source : String)
  | malformed (position : Position) (flaw : DocumentFlaw)
  | includeCycle (file : Location)

def LoadError.message : LoadError → String
  | .unreadable path fault => "Cannot read '" ++ path ++ "': " ++ fault.message
  | .notYaml source => "Invalid YAML in '" ++ source ++ "': " ++ elided
  | .malformed position flaw => position.text ++ ": " ++ flaw.message
  | .includeCycle file => "Include cycle on '" ++ file.text ++ "'"

end Sluice
