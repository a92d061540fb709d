import Sluice.Yaml.Lexer

/-!
# From YAML tokens to a tree

A document is a tree of scalars, lists and maps, each maybe with an anchor and a tag; an alias
stands for what an anchor names.  Where a value may be left out, an empty plain scalar takes its
place.
-/

namespace Sluice.Yaml

/-- A node. -/
inductive Node where
  | scalar (anchor tag : Option String) (text : String) (plain : Bool)
  | list (anchor tag : Option String) (items : List Node)
  | map (anchor tag : Option String) (entries : List (Node × Node))
  | alias (name : String)

instance : Inhabited Node := ⟨.alias ""⟩

def Node.absent : Node := .scalar none none "" true

/-- The stems of tags by handle. -/
abbrev Shorthands := List (String × String)

/-- The full text of a tag. -/
def Shorthands.expand? (s : Shorthands) (handle suffix : String) : Option String :=
  if handle.isEmpty then some suffix else (s.lookup handle).map (· ++ suffix)

namespace Node

/-- What stands before the content of a node: its anchor and its tag, in any order. -/
def properties (s : Shorthands) (ts : List Token) :
    Option (Option String × Option String × List Token) :=
  match ts with
  | .anchor name :: .tag h x :: rest => (s.expand? h x).map fun tag => (some name, some tag, rest)
  | .tag h x :: .anchor name :: rest => (s.expand? h x).map fun tag => (some name, some tag, rest)
  | .anchor name :: rest => some (some name, none, rest)
  | .tag h x :: rest => (s.expand? h x).map fun tag => (none, some tag, rest)
  | rest => some (none, none, rest)

/-- Whether an entry of a block map ends before a token. -/
def endsEntry : List Token → Bool
  | .key :: _ => true
  | .value :: _ => true
  | .blockEnd :: _ => true
  | _ => false

/-- Whether an item of a block list ends before a token. -/
def endsItem : List Token → Bool
  | .item :: _ => true
  | .blockEnd :: _ => true
  | _ => false

/-- Whether an item or entry in brackets ends before a token. -/
def endsFlow (close : Token) : List Token → Bool
  | .comma :: _ => true
  | t :: _ => t = close
  | [] => false

mutual

/-- A node; `block` allows block collections, and `bare` lists whose items stand no further right
than the key before them.  Fuel bounds the calls. -/
def read (s : Shorthands) (block bare : Bool) : Nat → List Token → Option (Node × List Token)
  | 0, _ => none
  | fuel + 1, ts =>
    match ts with
    | .alias name :: rest => some (.alias name, rest)
    | ts => do
      let (anchor, tag, ts) ← properties s ts
      match ts with
      | .item :: _ =>
        if bare then do
          let (items, rest) ← bareItems s fuel ts
          return (.list anchor tag items, rest)
        else if anchor.isSome ∨ tag.isSome then return (.scalar anchor tag "" true, ts)
        else none
      | .scalar text plain :: rest =>
        return (.scalar anchor (if tag = some "!" then none else tag) text plain, rest)
      | .flowListStart :: rest => do
        let (items, rest) ← flowItems s fuel true rest
        return (.list anchor tag items, rest)
      | .flowMapStart :: rest => do
        let (entries, rest) ← flowEntries s fuel true rest
        return (.map anchor tag entries, rest)
      | .blockListStart :: rest =>
        if block then do
          let (items, rest) ← blockItems s fuel rest
          return (.list anchor tag items, rest)
        else if anchor.isSome ∨ tag.isSome then return (.scalar anchor tag "" true, ts)
        else none
      | .blockMapStart :: rest =>
        if block then do
          let (entries, rest) ← blockEntries s fuel rest
          return (.map anchor tag entries, rest)
        else if anchor.isSome ∨ tag.isSome then return (.scalar anchor tag "" true, ts)
        else none
      | ts => if anchor.isSome ∨ tag.isSome then return (.scalar anchor tag "" true, ts) else none

def blockItems (s : Shorthands) : Nat → List Token → Option (List Node × List Token)
  | 0, _ => none
  | fuel + 1, .item :: rest => do
    let (first, rest) ← if endsItem rest then some (absent, rest) else read s true false fuel rest
    let (more, rest) ← blockItems s fuel rest
    return (first :: more, rest)
  | _, .blockEnd :: rest => some ([], rest)
  | _, _ => none

/-- The items of a list that is no block of its own. -/
def bareItems (s : Shorthands) : Nat → List Token → Option (List Node × List Token)
  | 0, _ => none
  | fuel + 1, .item :: rest => do
    let (first, rest) ←
      if endsItem rest ∨ endsEntry rest then some (absent, rest) else read s true false fuel rest
    let (more, rest) ← bareItems s fuel rest
    return (first :: more, rest)
  | _, ts => some ([], ts)

def blockValue (s : Shorthands) : Nat → List Token → Option (Node × List Token)
  | 0, _ => none
  | fuel + 1, .value :: rest =>
    if endsEntry rest then some (absent, rest) else read s true true fuel rest
  | _, ts => some (absent, ts)

def blockEntries (s : Shorthands) : Nat → List Token → Option (List (Node × Node) × List Token)
  | 0, _ => none
  | fuel + 1, .key :: rest => do
    let (key, rest) ← if endsEntry rest then some (absent, rest) else read s true true fuel rest
    let (value, rest) ← blockValue s fuel rest
    let (more, rest) ← blockEntries s fuel rest
    return ((key, value) :: more, rest)
  | _, .blockEnd :: rest => some ([], rest)
  | _, _ => none

def flowValue (s : Shorthands) (close : Token) : Nat → List Token → Option (Node × List Token)
  | 0, _ => none
  | fuel + 1, .value :: rest =>
    if endsFlow close rest then some (absent, rest) else read s false false fuel rest
  | _, ts => some (absent, ts)

/-- The items of a list in brackets; `first` says that no item stands before them. -/
def flowItems (s : Shorthands) : Nat → Bool → List Token → Option (List Node × List Token)
  | 0, _, _ => none
  | _, _, .flowListEnd :: rest => some ([], rest)
  | fuel + 1, true, ts => flowItem s fuel ts
  | _, false, .comma :: .flowListEnd :: rest => some ([], rest)
  | fuel + 1, false, .comma :: rest => flowItem s fuel rest
  | _, false, _ => none

/-- An item of a list in brackets, and those behind it.  An entry of a map may stand alone as an
item. -/
def flowItem (s : Shorthands) : Nat → List Token → Option (List Node × List Token)
  | 0, _ => none
  | fuel + 1, .key :: rest => do
    let (key, rest) ←
      match rest with
      | .value :: _ => some (absent, rest.tail)
      | _ =>
        if endsFlow .flowListEnd rest then some (absent, rest.tail)
        else read s false false fuel rest
    let (value, rest) ← flowValue s .flowListEnd fuel rest
    let (more, rest) ← flowItems s fuel false rest
    return (.map none none [(key, value)] :: more, rest)
  | fuel + 1, ts => do
    let (first, rest) ← read s false false fuel ts
    let (more, rest) ← flowItems s fuel false rest
    return (first :: more, rest)

/-- The entries of a map in brackets; `first` says that no entry stands before them. -/
def flowEntries (s : Shorthands) :
    Nat → Bool → List Token → Option (List (Node × Node) × List Token)
  | 0, _, _ => none
  | _, _, .flowMapEnd :: rest => some ([], rest)
  | fuel + 1, true, ts => flowEntry s fuel ts
  | _, false, .comma :: .flowMapEnd :: rest => some ([], rest)
  | fuel + 1, false, .comma :: rest => flowEntry s fuel rest
  | _, false, _ => none

def flowEntry (s : Shorthands) : Nat → List Token → Option (List (Node × Node) × List Token)
  | 0, _ => none
  | fuel + 1, .key :: rest => do
    let (key, rest) ←
      match rest with
      | .value :: _ => some (absent, rest)
      | _ => if endsFlow .flowMapEnd rest then some (absent, rest) else read s false false fuel rest
    let (value, rest) ← flowValue s .flowMapEnd fuel rest
    let (more, rest) ← flowEntries s fuel false rest
    return ((key, value) :: more, rest)
  | fuel + 1, ts => do
    let (key, rest) ← read s false false fuel ts
    let (more, rest) ← flowEntries s fuel false rest
    return ((key, absent) :: more, rest)

end

/-- The directives before a document.  There is at most one version, and each handle is given
once. -/
def directives (version : Bool) (s : Shorthands) : List Token → Option (Shorthands × List Token)
  | .version major minor :: rest =>
    if version ∨ major ≠ 1 ∨ ¬ (minor = 1 ∨ minor = 2) then none else directives true s rest
  | .tagShorthand handle stem :: rest =>
    if (s.lookup handle).isSome then none else directives version (s ++ [(handle, stem)]) rest
  | rest => some (s, rest)

/-- The handles that need no directive. -/
def standard : Shorthands := [("!", "!"), ("!!", "tag:yaml.org,2002:")]

/-- Whether a document has no content before a token. -/
def endsDocument : List Token → Bool
  | .version .. :: _ => true
  | .tagShorthand .. :: _ => true
  | .documentStart :: _ => true
  | .documentEnd :: _ => true
  | .finish :: _ => true
  | _ => false

/-- The content of the only document of a text. -/
def ofTokens? (ts : List Token) : Option Node := do
  let fuel := 4 * ts.length + 8
  match ts with
  | [.finish] => return absent
  | _ =>
    let (shorthands, content) ← directives false [] ts
    let directed := content.length < ts.length
    let ts := content
    let explicit := ts.head? = some .documentStart
    if ¬ explicit ∧ (directed ∨ endsDocument ts) then none
    else
      let ts := if explicit then ts.tail else ts
      let (node, rest) ← if explicit ∧ endsDocument ts then some (absent, ts)
        else read (shorthands ++ standard) true false fuel ts
      match rest.dropWhile (· = .documentEnd) with
      | [.finish] => return node
      | _ => none

mutual

/-- The number of parts of a tree, where a list or map counts twice. -/
def parts : Node → Nat
  | .scalar .. => 1
  | .alias _ => 1
  | .list _ _ items => 2 + partsOfItems items
  | .map _ _ entries => 2 + partsOfEntries entries

def partsOfItems : List Node → Nat
  | [] => 0
  | n :: rest => n.parts + partsOfItems rest

def partsOfEntries : List (Node × Node) → Nat
  | [] => 0
  | (k, v) :: rest => k.parts + v.parts + partsOfEntries rest

end

end Node

end Sluice.Yaml
