import Sluice.Json.Reader
import Sluice.Log
import Sluice.Request

/-!
# The command line

What a service is told when it starts, requests that are written as JSON, and the lines of its log.
-/

namespace Sluice

/-- The place of a level in the order of importance; the most important one has the least. -/
def Level.rank : Level → Nat
  | .error => 0
  | .warn => 1
  | .info => 2
  | .debug => 3
  | .trace => 4

/-- The level of a name, in any case. -/
def Level.ofName? (name : String) : Option Level :=
  [Level.error, .warn, .info, .debug, .trace].find? fun l => l.name = name.map Char.toUpper

def Record.fieldText (field : String × String) : String := " " ++ field.1 ++ "=" ++ field.2

def Record.line (r : Record) : String :=
  r.level.name ++ (r.message.map (" " ++ ·)).getD "" ++ String.join (r.fields.map fieldText)

/-- The records that are no less important than a level. -/
def Record.upTo (level : Level) (records : List Record) : List Record :=
  records.filter fun r => r.level.rank ≤ level.rank

/-- The options of a service: its configuration file, the number of its port, and the least
important level of its log. -/
structure Options where
  config : String
  port : Nat
  level : Level
deriving DecidableEq, Repr

namespace Options

/-- The options of a service that is told nothing. -/
def usual : Options := ⟨"api.yml", 9110, .info⟩

/-- Why arguments are no options. -/
inductive Flaw where
  | unknown (name : String) | noValue (name : String)
  | badPort (text : String) | badLevel (text : String)
deriving DecidableEq, Repr

def Flaw.message : Flaw → String
  | .unknown name => "unexpected argument '" ++ name ++ "'"
  | .noValue name => "a value is required for '" ++ name ++ "'"
  | .badPort text => "invalid port '" ++ text ++ "'"
  | .badLevel text => "Invalid log level '" ++ text ++ "'"

/-- The number of a port: sixteen bits in decimal. -/
def port? (text : String) : Option Nat :=
  let ds := text.toList
  let n := Decimal.value ds
  if ds.isEmpty ∨ ¬ ds.all Char.isDigit ∨ 65535 < n then none else some n

def put (o : Options) (name value : String) : Except Flaw Options :=
  match name with
  | "--config" => .ok { o with config := value }
  | "--port" => match port? value with
    | some n => .ok { o with port := n }
    | none => .error (.badPort value)
  | "--loglevel" => match Level.ofName? value with
    | some l => .ok { o with level := l }
    | none => .error (.badLevel value)
  | name => .error (.unknown name)

def names : List String := ["--config", "--port", "--loglevel"]

/-- Sets options from arguments: a name with `=` and a value, or a name and then a value. -/
def read (o : Options) : List String → Except Flaw Options
  | [] => .ok o
  | [name] => match Text.splitOnce? '=' name.toList with
    | some (name, value) => o.put (String.ofList name) (String.ofList value)
    | none => .error (if names.contains name then .noValue name else .unknown name)
  | name :: value :: rest => match Text.splitOnce? '=' name.toList with
    | some (name, value') => do
      (← o.put (String.ofList name) (String.ofList value')).read (value :: rest)
    | none => do (← o.put name value).read rest

end Options

/-- A pair of a name and a value; anything else has no name and no value. -/
def Request.headerOf : Json → String × List UInt8
  | .list [.string name, .string value] => (name, Text.encode value)
  | _ => ("", [])

/-- A request that is written as a map of `method`, `uri`, `headers` and `body`. -/
def Request.ofJson (v : Json) : Request :=
  let text (key usual : String) : String := ((v.get? key).bind Json.string?).getD usual
  let headers := match v.get? "headers" with
    | some (.list items) => (items.map headerOf).filter fun header => header.1 ≠ ""
    | _ => []
  .receive (text "method" "GET") (text "uri" "/") headers (Text.encode (text "body" ""))

/-- A request that is written as a line of JSON. -/
def Request.ofLine (line : String) : Except Json.Refusal Request :=
  (Json.read line.toList).map Request.ofJson

end Sluice
