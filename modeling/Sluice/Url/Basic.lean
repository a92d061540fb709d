import Sluice.Form

/-!
# URLs

An absolute URL in its parts, each of them as it is written, and its text.  What a part may not hold
is written as `%` and two hexadecimal digits for each byte.
-/

namespace Sluice

/-- Why a text is no URL. -/
inductive Url.Flaw where
  | noScheme | emptyHost | badDomain | badHostChar | badPort | badIpv4 | badIpv6
deriving DecidableEq, Repr

def Url.Flaw.message : Url.Flaw → String
  | .noScheme => "relative URL without a base"
  | .emptyHost => "empty host"
  | .badDomain => "invalid international domain name"
  | .badHostChar => "invalid domain character"
  | .badPort => "invalid port number"
  | .badIpv4 => "invalid IPv4 address"
  | .badIpv6 => "invalid IPv6 address"

/-- An absolute URL.  `host` is none if there is no `//`. -/
structure Url where
  scheme : String
  username : String
  password : Option String
  host : Option String
  port : Option Nat
  path : String
  query : Option String
  fragment : Option String
deriving DecidableEq, Repr

namespace Url

/-- The text before the host: a name and a password. -/
def credentials (u : Url) : String :=
  match u.password with
  | some p => u.username ++ ":" ++ p ++ "@"
  | none => if u.username = "" then "" else u.username ++ "@"

def authority (u : Url) : String :=
  match u.host, u.port with
  | some h, some n => "//" ++ u.credentials ++ h ++ ":" ++ toString n
  | some h, none => "//" ++ u.credentials ++ h
  | none, _ => if u.path.startsWith "//" then "/." else ""

def text (u : Url) : String :=
  u.scheme ++ ":" ++ u.authority ++ u.path ++ (u.query.map ("?" ++ ·)).getD "" ++
    (u.fragment.map ("#" ++ ·)).getD ""

/-- A URL without name and password. -/
def withoutCredentials (u : Url) : Url := { u with username := "", password := none }

/-- Adds pairs to the query. -/
def withQuery (u : Url) (pairs : List (String × String)) : Url :=
  if pairs.isEmpty then u
  else
    let added := String.ofList (Form.write pairs)
    match u.query with
    | none | some "" => { u with query := some added }
    | some q => { u with query := some (q ++ "&" ++ added) }

/-- The schemes of the web, with their usual ports. -/
def webSchemes : List (String × Option Nat) :=
  [("http", some 80), ("https", some 443), ("ws", some 80), ("wss", some 443), ("ftp", some 21),
   ("file", none)]

/-- Whether a scheme is one of the web. -/
def isWeb (scheme : String) : Bool := webSchemes.any fun s => s.1 = scheme

def usualPort (scheme : String) : Option Nat := (webSchemes.find? fun s => s.1 = scheme).bind (·.2)

def isControl (c : Char) : Bool := c.toNat < 0x20 ∨ c.toNat = 0x7f

def inFragment (c : Char) : Bool := isControl c ∨ [' ', '"', '<', '>', '\x60'].contains c

/-- What a query does not hold; that of a web scheme has no single quote either. -/
def inQuery (web : Bool) (c : Char) : Bool :=
  isControl c ∨ [' ', '"', '#', '<', '>'].contains c ∨ (web ∧ c = '\x27')

def inPath (c : Char) : Bool := inFragment c ∨ ['#', '?', '\x7b', '\x7d'].contains c

def inCredentials (c : Char) : Bool :=
  inPath c ∨ ['/', ':', ';', '=', '@', '[', '\\', ']', '^', '|'].contains c

/-- A byte as `%` and two hexadecimal digits. -/
def escapeByte (b : UInt8) : List Char := '%' :: (Text.hexByte b).map Char.toUpper

/-- A text with the characters of a class, and all that are not ASCII, written as bytes. -/
def escape (excluded : Char → Bool) (cs : List Char) : String :=
  String.ofList (cs.flatMap fun c =>
    if c.toNat < 128 ∧ ¬ excluded c then [c]
    else (Text.encode (String.singleton c)).flatMap escapeByte)

end Url

end Sluice
