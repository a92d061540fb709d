import Sluice.Url.Host

/-!
# Reading URLs

Reading is lenient: blanks around the text, tabs and line ends are dropped, `\` is as good as `/`
where the scheme is one of the web, dots in the path are resolved, and what a part does not hold is
escaped.
-/

namespace Sluice.Url

/-- A text without blanks and control characters around it, and without tabs and line ends in it. -/
def bare (cs : List Char) : List Char :=
  let isEdge (c : Char) : Bool := c.toNat ≤ 0x20
  ((((cs.dropWhile isEdge).reverse.dropWhile isEdge).reverse).filter fun c =>
    ¬ ['\t', '\n', '\r'].contains c)

/-- The scheme of a text, in lower case, and what follows its colon. -/
def scheme? (cs : List Char) : Option (String × List Char) :=
  match Text.splitOnce? ':' cs with
  | some (c :: rest, after) =>
    if c.isAlpha ∧ rest.all fun c => c.isAlphanum ∨ ['+', '-', '.'].contains c then
      some (String.ofList ((c :: rest).map Char.toLower), after)
    else none
  | _ => none

/-- A text up to the first occurrence of a character, and what follows it. -/
def cut (c : Char) (cs : List Char) : List Char × Option (List Char) :=
  match Text.splitOnce? c cs with
  | some (before, after) => (before, some after)
  | none => (cs, none)

/-- Whether a character ends a name of a path. -/
def isSlash (web : Bool) (c : Char) : Bool := c = '/' ∨ (web ∧ c = '\\')

/-- Whether a name of a path is a dot, which may be escaped. -/
def isDot (name : List Char) : Bool := name = ['.'] ∨ name.map Char.toLower = ['%', '2', 'e']

/-- Whether a name of a path is two dots, each of which may be escaped. -/
def isTwoDots (name : List Char) : Bool :=
  let name := name.map Char.toLower
  ["..", ".%2e", "%2e.", "%2e%2e"].any fun s => s.toList = name

/-- The names of a path with the dots resolved; `read` has the names before, the last one first. -/
def resolve (read : List String) : List (List Char) → List String
  | [] => read.reverse
  | name :: rest =>
    let kept := if isTwoDots name then read.drop 1 else read
    let dots : Bool := isDot name ∨ isTwoDots name
    match dots, rest.isEmpty with
    | true, true => ("" :: kept).reverse
    | true, false => resolve kept rest
    | false, _ => resolve (escape inPath name :: read) rest

/-- A path that starts with a slash. -/
def absolutePath (web : Bool) (cs : List Char) : String :=
  String.join ((resolve [] (Text.splitWhen (isSlash web) cs)).map ("/" ++ ·))

def pathBehind (web : Bool) (cs : List Char) : String :=
  match cs with
  | [] => if web then "/" else ""
  | c :: rest => absolutePath web (if isSlash web c then rest else cs)

/-- A port, if it is not the usual one. -/
def port? (scheme : String) (cs : List Char) : Except Flaw (Option Nat) :=
  match numeral? 10 cs with
  | none => .error .badPort
  | some n =>
    if 65535 < n then .error .badPort
    else .ok (if cs.isEmpty ∨ usualPort scheme = some n then none else some n)

/-- A host and what follows its colon; colons in brackets do not count. -/
def hostAndPort (inside : Bool) (host : List Char) : List Char → List Char × Option (List Char)
  | [] => (host.reverse, none)
  | ':' :: rest =>
    if inside then hostAndPort inside (':' :: host) rest else (host.reverse, some rest)
  | '[' :: rest => hostAndPort true ('[' :: host) rest
  | ']' :: rest => hostAndPort false (']' :: host) rest
  | c :: rest => hostAndPort inside (c :: host) rest

/-- What stands before the last `@`, and what stands after it. -/
def cutCredentials (cs : List Char) : List Char × List Char :=
  let after := (cs.reverse.takeWhile (· ≠ '@')).reverse
  (cs.take (cs.length - after.length - 1), after)

/-- A URL with an authority: what follows its `//`, up to the query. -/
def withAuthority (scheme : String) (cs : List Char) : Except Flaw Url := do
  let web := isWeb scheme
  let (user, rest) := cutCredentials (cs.takeWhile fun c => ¬ isSlash web c)
  let (host, port) := hostAndPort false [] rest
  if host.isEmpty ∧ (web ∨ port.isSome ∨ ¬ user.isEmpty) then throw .emptyHost
  let hostText ← if web then webHost host else otherHost host
  let portNumber ← port? scheme (port.getD [])
  let (name, password) := cut ':' user
  return ⟨scheme, escape inCredentials name,
    (password.filter fun p => ¬ p.isEmpty).map (escape inCredentials), some hostText, portNumber,
    pathBehind web (cs.dropWhile fun c => ¬ isSlash web c), none, none⟩

/-- A URL of a file: its host may be empty, and `localhost` counts as empty. -/
def ofFile (cs : List Char) : Except Flaw Url := do
  let isSlash := isSlash true
  let (host, path) := match cs with
    | a :: b :: rest =>
      if isSlash a ∧ isSlash b then
        (rest.takeWhile fun c => ¬ isSlash c, rest.dropWhile fun c => ¬ isSlash c)
      else ([], cs)
    | _ => ([], cs)
  let hostText ← if host.isEmpty then pure "" else webHost host
  return ⟨"file", "", none, some (if hostText = "localhost" then "" else hostText), none,
    pathBehind true path,
    none, none⟩

/-- What stands between the scheme and the query. -/
def hierarchy (scheme : String) (cs : List Char) : Except Flaw Url :=
  if scheme = "file" then ofFile cs
  else if isWeb scheme then withAuthority scheme (cs.dropWhile (isSlash true))
  else match cs with
    | '/' :: '/' :: rest => withAuthority scheme rest
    | '/' :: rest => .ok ⟨scheme, "", none, none, none, absolutePath false rest, none, none⟩
    | _ => .ok ⟨scheme, "", none, none, none, escape isControl cs, none, none⟩

def parse (text : String) : Except Flaw Url :=
  match scheme? (bare text.toList) with
  | none => .error .noScheme
  | some (scheme, rest) => do
    let (rest, fragment) := cut '#' rest
    let (rest, query) := cut '?' rest
    let url ← hierarchy scheme rest
    return { url with
      query := query.map (escape (inQuery (isWeb scheme)))
      fragment := fragment.map (escape inFragment) }

end Sluice.Url
