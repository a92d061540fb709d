import Sluice.Run.Step

/-!
# Services

A service runs its configuration for requests.  The `init` block runs once, and every request starts
from the context that it has left.
-/

namespace Sluice

/-- A configuration that is ready for requests. -/
structure Service where
  config : Config
  registry : Registry
  seed : Context

namespace Service

/-- Gets a configuration ready, and tells what has happened. -/
def start (config : Config) (registry : Registry) : Service × List Event :=
  match config.init with
  | none => (⟨config, registry, .empty⟩, [])
  | some steps =>
    let r := runInit registry steps .empty
    (⟨config, registry, r.context⟩, r.events ++ if r.value then [] else [.initIncomplete])

/-- Runs the pipes for a request. -/
def run (s : Service) (request : Request) : Report Bool :=
  runPipes s.registry s.config.pipes (.ofSeed s.seed request)

/-- Answers a request: the status is always the same, whatever the pipes say. -/
def handle (s : Service) (request : Request) : Nat × List Event :=
  let r := s.run request
  (200, r.events ++ [.requestProcessed request.method request.path r.value])

end Service

end Sluice
