import Sluice.CommandLine
import Sluice.Config.Reader
import Sluice.Host.Shell
import Sluice.Plugin.Builtin
import Sluice.Service

/-!
# The program

Loads a configuration, runs its `init` block, and answers the requests on standard input, one line
of JSON each, with a line that holds the status.  The log goes to standard error.  Plugins see the
files below the working directory as they were at the start; no server can be asked.
-/

namespace Sluice.Program

/-- Writes the records that are important enough. -/
def writeLog (level : Level) (records : List Record) : IO Unit :=
  (Record.upTo level records).forM fun r => IO.eprintln r.line

/-- Writes the records of events. -/
def writeEvents (level : Level) (events : List Event) : IO Unit :=
  writeLog level ((events.filter (·.isLogged)).map Event.record)

/-- The files below a directory; links to directories are not followed. -/
partial def filesBelow (place : Location) : IO (List (Location × List UInt8)) := do
  let here ← IO.FS.realPath place.text
  if here.toString ≠ place.text then return []
  let mut files := []
  for entry in ← here.readDir do
    let next := place ++ [entry.fileName]
    try
      if ← entry.path.isDir then files := files ++ (← filesBelow next)
      else files := (next, (← IO.FS.readBinFile entry.path).toList) :: files
    catch _ => pure ()
  return files

/-- The files that the program can see. -/
def visibleFiles : IO FileTree := do
  let here := (← IO.currentDir).toString
  let place := ((Text.splitAt '/' here.toList).map String.ofList).filter (· ≠ "")
  return ⟨← filesBelow place, place, (← IO.getEnv "HOME").getD ""⟩

/-- Answers the requests of a stream until it ends. -/
partial def answerAll (service : Service) (level : Level) (input : IO.FS.Stream) : IO Unit := do
  let line ← input.getLine
  if line ≠ "" then
    match Request.ofLine line with
    | .error refusal => IO.eprintln refusal.message
    | .ok request =>
      let (status, events) := service.handle request
      writeEvents level events
      IO.println (toString status)
    answerAll service level input

/-- Runs a service with its options. -/
def runService (options : Options) : IO UInt32 := do
  let tree ← visibleFiles
  let host : Host := ⟨tree, Shell.run tree, fun _ => .error "error sending request"⟩
  let registry := Registry.ofList (Plugin.builtins host)
  let level := options.level
  match Config.load tree registry.has options.config with
  | .error e =>
    writeLog level [⟨.error, some "Cannot load configuration",
      [("config", options.config), ("error", e.message)]⟩]
    return 1
  | .ok (config, openings) =>
    writeEvents level (openings.map Event.opened)
    writeLog level [⟨.info, some "Configuration loaded",
      [("config", options.config), ("pipes", toString config.pipes.length),
       ("init", Record.ofBool config.init.isSome)]⟩]
    let (service, events) := Service.start config registry
    writeEvents level events
    writeLog level [⟨.info, some "Listening", [("port", toString options.port)]⟩]
    answerAll service level (← IO.getStdin)
    return 0

/-- Reads the options and runs the service. -/
def start (args : List String) : IO UInt32 := do
  match Options.usual.read args with
  | .error flaw =>
    IO.eprintln flaw.message
    return 2
  | .ok options => runService options

end Sluice.Program

def main (args : List String) : IO UInt32 := Sluice.Program.start args
