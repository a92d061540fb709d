import Sluice.Plugin.Body
import Sluice.Plugin.Command
import Sluice.Plugin.Header
import Sluice.Plugin.Http
import Sluice.Plugin.JsonRpc
import Sluice.Plugin.Log
import Sluice.Plugin.Match
import Sluice.Plugin.ReadFile
import Sluice.Plugin.Registry

/-!
# The plugins of the library
-/

namespace Sluice

def Plugin.builtins (host : Host) : List Plugin := [
  Match.plugin, Log.plugin, Header.plugin, Body.plugin, ReadFile.plugin host.files,
  Command.plugin host,
  Http.plugin host, JsonRpc.plugin host]

/-- The registry of the plugins that every configuration may name. -/
def Registry.builtin (host : Host) : Registry := .ofList (Plugin.builtins host)

end Sluice
