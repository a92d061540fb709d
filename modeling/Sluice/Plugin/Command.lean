import Sluice.Host
import Sluice.Plugin.Basic
import Sluice.Plugin.Params

/-!
# `command`

Runs a program.  The answer is whether it ends with status 0; the status and what the program has
written are its result.  A program in the background is only started.
-/

namespace Sluice.Command

/-- The parameters. -/
structure Params where
  command : String
  args : List String
  chdir : Option String
  stdin : Option String
  background : Bool

open Sluice.Params in
def Params.read (params : Fields Json) : Except ParamFlaw Params := do
  let command ← required text "command" params
  let args ← usually [] texts "args" params
  let chdir ← optional text "chdir" params
  let stdin ← optional text "stdin" params
  let background ← usually false bool "background" params
  return ⟨← filled "command" command, args, chdir, stdin, background⟩

def schema : Schema := .of .object [
  .fields [
    ("command", .someText),
    ("args", .of .array [.items 0 .text]),
    ("chdir", .text),
    ("stdin", .text),
    ("background", .of .boolean [])],
  .required ["command"]]

/-- What a program that has ended gives. -/
def result (status : Nat) (output errors : List UInt8) : Fields Json :=
  [("rc", .nat status), ("stdout", .string (Text.decode output)),
   ("stderr", .string (Text.decode errors))]

/-- The program to be run. -/
def launch (files : FileTree) (p : Params) : Launch :=
  let filled (s : Option String) : Option String := s.filter (· ≠ "")
  ⟨files.expandHome p.command, p.args, (filled p.chdir).map files.expandHome,
    if p.background then none else filled p.stdin⟩

/-- Runs the program. -/
def call (host : Host) (params : Fields Json) (ctx : Context) : Answer :=
  match Params.read params with
  | .error flaw => .fail ctx (.invalidParams flaw) []
  | .ok p => match host.run (launch host.files p) with
    | .error fault =>
      let message := if p.background then "Cannot start command" else "Cannot run command"
      .fail ctx (.io fault) [⟨.error, some message,
        [("command", p.command), ("error", fault.message)]⟩]
    | .ok ended =>
      if p.background then .of ctx true none
      else match ended with
        | .killed => .fail ctx (.failed ("'" ++ p.command ++ "' terminated by a signal")) []
        | .exited status output errors => .of ctx (status = 0) (some (result status output errors))

def plugin (host : Host) : Plugin := ⟨"command", schema, call host⟩

end Sluice.Command
