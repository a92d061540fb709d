import Sluice.Plugin.Basic

/-!
# `log`

Writes a value to the log.
-/

namespace Sluice.Log

def schema : Schema := .of .object [.fields [("msg", .keywords [])], .required ["msg"]]

def call (params : Fields Json) (ctx : Context) : Answer :=
  let message := ((Fields.get? "msg" params).map Json.display).getD ""
  ⟨.ok true, none, ctx, [⟨.info, none, [("log", message)]⟩]⟩

def plugin : Plugin := ⟨"log", schema, call⟩

end Sluice.Log
