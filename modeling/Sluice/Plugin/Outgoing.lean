import Sluice.Host
import Sluice.Plugin.Basic
import Sluice.Plugin.Params
import Sluice.Url.Parser

/-!
# Requests to servers

What the plugins that ask servers have in common: credentials among their parameters, and the checks
that a request passes before it is sent.  A URL needs a host, headers have to be well formed, and
only `http` and `https` can be sent.
-/

namespace Sluice.Outgoing

open Sluice.Params in
/-- The credentials among parameters; a missing name or password is empty.  The other notation for
two fields, a list of their values in order, is refused here: the schema asks for a map. -/
def readCredentials : Json → Except ParamFlaw (String × String)
  | .map fields =>
    do return (← usually "" text "username" fields, ← usually "" text "password" fields)
  | v => .error (.wrongKind v "struct BasicAuth")

def credentialsSchema : Schema := .of .object [.fields [("username", .text), ("password", .text)]]

/-- Whether a character may be in the name of a header. -/
def isNameChar (c : Char) : Bool := c.isAlphanum ∨ "!#$%&\x27*+-.^_\x60|~".toList.contains c

def isHeaderName (s : String) : Bool := s ≠ "" ∧ s.utf8ByteSize < 65536 ∧ s.toList.all isNameChar

/-- Whether a text is the value of a header: it has no control characters but tabs. -/
def isHeaderValue (s : String) : Bool := s.toList.all fun c => c = '\t' ∨ ¬ Url.isControl c

/-- Why a request cannot be built; a URL is named if it is to blame. -/
def refusal : Option Url → String
  | none => "builder error"
  | some u => "builder error for url (" ++ u.text ++ ")"

def hasHost (u : Url) : Bool := (u.host.getD "") ≠ ""

/-- Sends a request to a URL; its own credentials are used if no others are given. -/
def sendTo (send : Outgoing → Except String Reply) (url : Url) (request : Outgoing) :
    Except String Reply :=
  if ¬ hasHost url then .error (refusal (some url))
  else if ¬ request.headers.all fun h => isHeaderName h.1 ∧ isHeaderValue h.2 then
    .error (refusal none)
  else if url.scheme ≠ "http" ∧ url.scheme ≠ "https" then
    .error (refusal (some url.withoutCredentials))
  else
    let own := if url.credentials = "" then none else some (url.username, url.password.getD "")
    let credentials := request.credentials.or own
    send { request with url := url.withoutCredentials.text, credentials }

end Sluice.Outgoing
