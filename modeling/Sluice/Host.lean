import Sluice.FileTree

/-!
# What plugins reach

The world outside of a request: files, programs that can be run, and servers that can be asked.
-/

namespace Sluice

/-- A program to be run. -/
structure Launch where
  program : String
  args : List String
  directory : Option String
  input : Option String
deriving DecidableEq, Repr

/-- How a program has ended: with a status and what it has written, or by a signal. -/
inductive Ended where
  | exited (status : Nat) (output errors : List UInt8)
  | killed
deriving DecidableEq, Repr

/-- A request to a server; the credentials are a name and a password. -/
structure Outgoing where
  method : String
  url : String
  headers : List (String × String)
  credentials : Option (String × String)
  body : Option String
deriving DecidableEq, Repr

/-- The answer of a server. -/
structure Reply where
  status : Nat
  kind : String
  body : List UInt8
deriving DecidableEq, Repr

/-- What plugins can reach.  A program that cannot be started has a fault; a server that cannot be
asked has a reason. -/
structure Host where
  files : FileTree
  run : Launch → Except FileFault Ended
  send : Outgoing → Except String Reply

end Sluice
