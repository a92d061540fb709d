import Sluice.Expr.Error
import Sluice.FileTree
import Sluice.Url.Basic

/-!
# What plugins object to

A plugin that cannot answer says why: its parameters make no sense, a file or a program is not
there, or something else has failed.
-/

namespace Sluice

/-- What is wrong with the parameters of a plugin. -/
inductive ParamFlaw where
  | missing (name : String)
  | wrongKind (actual : Json) (expected : String)
  | empty (name : String)
  | notOneOf (first second : String)
  | badPattern
  | unsupportedMethod (method : String)
  | badResponse (kind : String)
  | badUrl (text : String) (flaw : Url.Flaw)

/-- A value in the wording of a flaw. -/
def ParamFlaw.describe : Json → String
  | .null => "null"
  | .bool b => "boolean \x60" ++ (Json.bool b).text ++ "\x60"
  | .number (.int i h) => "integer \x60" ++ (Number.int i h).text ++ "\x60"
  | .number (.float x h) => "floating point \x60" ++ (Number.float x h).text ++ "\x60"
  | .string s => "string " ++ (Json.string s).text
  | .list _ => "sequence"
  | .map _ => "map"

def ParamFlaw.message : ParamFlaw → String
  | .missing name => "missing field \x60" ++ name ++ "\x60"
  | .wrongKind actual expected => "invalid type: " ++ describe actual ++ ", expected " ++ expected
  | .empty name => name ++ ": Validation error: length " ++ elided
  | .notOneOf first second => "exactly one of '" ++ first ++ "' or '" ++ second ++ "' is required"
  | .badPattern => "invalid 'regexp': " ++ elided
  | .unsupportedMethod method => "unsupported method '" ++ method ++ "'"
  | .badResponse kind => "'response' must be JSON or STRING, not '" ++ kind ++ "'"
  | .badUrl text flaw => "bad URL '" ++ text ++ "': " ++ flaw.message

/-- Why a plugin cannot answer. -/
inductive PluginError where
  | invalidParams (flaw : ParamFlaw)
  | io (fault : FileFault)
  | failed (reason : String)

def PluginError.message : PluginError → String
  | .invalidParams flaw => "Invalid params: " ++ flaw.message
  | .io fault => fault.message
  | .failed reason => reason

end Sluice
