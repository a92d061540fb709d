/-!
# Words of shell scripts

A script is read as words and signs between them.  A word is made of texts and parameters; quotes
keep blanks and signs together, and only double quotes let parameters in.
-/

namespace Sluice.Script

/-- A part of a word: a text, or the value of a parameter. -/
inductive Piece where
  | text (s : String)
  | parameter (name : String)
deriving DecidableEq, Repr

/-- Where the output of a command goes. -/
inductive Target where
  | output | errors | nowhere
deriving DecidableEq, Repr

/-- A word, the end of a command, or a redirection of output or errors. -/
inductive Token where
  | word (pieces : List Piece)
  | next | andThen | orElse
  | redirect (errors : Bool) (target : Target)
deriving DecidableEq, Repr

/-- A word in the making, its last piece first; none between words. -/
abbrev Open := Option (List Piece)

def add (word : Open) (c : Char) : Open :=
  match word with
  | some (.text s :: rest) => some (.text (s.push c) :: rest)
  | some rest => some (.text (String.singleton c) :: rest)
  | none => some [.text (String.singleton c)]

def close (word : Open) : List Token := (word.map fun pieces => Token.word pieces.reverse).toList

/-- The parameter behind a `$`, and what follows it. -/
def parameter? : List Char → Option (String × List Char)
  | [] => none
  | '\x7b' :: rest =>
    some (String.ofList (rest.takeWhile (· ≠ '\x7d')), (rest.dropWhile (· ≠ '\x7d')).drop 1)
  | c :: rest =>
    let isName (c : Char) : Bool := c.isAlphanum ∨ c = '_'
    if ['$', '?', '#', '@', '*'].contains c ∨ c.isDigit then some (String.singleton c, rest)
    else if isName c then some (String.ofList ((c :: rest).takeWhile isName), rest.dropWhile isName)
    else none

/-- Where a redirection goes, and what follows it. -/
def target (cs : List Char) : Target × List Char :=
  match cs with
  | '&' :: '1' :: rest => (.output, rest)
  | '&' :: '2' :: rest => (.errors, rest)
  | _ =>
    (.nowhere, (cs.dropWhile (· = ' ')).dropWhile fun c => ¬ [' ', '\n', ';', '&', '|'].contains c)

/-- The tokens of a script, behind a word that may be open and a quote that may be. -/
def tokens (fuel : Nat) (word : Open) (quote : Option Char) (cs : List Char) : List Token :=
  match fuel, cs with
  | 0, _ | _, [] => close word
  | fuel + 1, c :: rest =>
    let parameters : Option (String × List Char) :=
      if c = '$' ∧ quote ≠ some '\x27' then parameter? rest else none
    match parameters, quote with
    | some (name, rest), _ => tokens fuel (some (.parameter name :: word.getD [])) quote rest
    | none, some q =>
      if c = q then tokens fuel (some (word.getD [])) none rest
      else match c, q, rest with
        | '\\', '"', d :: more =>
          if ['$', '"', '\\', '\x60'].contains d then tokens fuel (add word d) quote more
          else tokens fuel (add word c) quote rest
        | _, _, _ => tokens fuel (add word c) quote rest
    | none, none =>
      let ended (t : Token) (rest : List Char) : List Token :=
        close word ++ t :: tokens fuel none none rest
      match c, rest with
      | ' ', _ | '\t', _ => close word ++ tokens fuel none none rest
      | '\n', _ | ';', _ => ended .next rest
      | '&', '&' :: more => ended .andThen more
      | '&', _ => ended .next rest
      | '|', '|' :: more => ended .orElse more
      | '\x27', _ | '"', _ => tokens fuel word (some c) rest
      | '\\', d :: more => tokens fuel (add word d) none more
      | '>', _ =>
        let (goal, more) := target rest
        let before := if word = some [.text "1"] ∨ word = some [.text "2"] then [] else close word
        before ++ .redirect (word = some [.text "2"]) goal :: tokens fuel none none more
      | _, _ =>
        if c = '#' ∧ word.isNone then tokens fuel none none (rest.dropWhile (· ≠ '\n'))
        else tokens fuel (add word c) none rest

def read (script : String) : List Token := tokens (script.length + 1) none none script.toList

/-- When a command runs, given how the one before it has ended. -/
inductive Link where
  | always | ifTrue | ifFalse
deriving DecidableEq, Repr

/-- A command: its words, and where its output and its errors go. -/
structure Command where
  link : Link
  words : List (List Piece)
  output : Target
  errors : Target

/-- The commands of tokens, behind one that is being read. -/
def commands (current : Command) : List Token → List Command
  | [] => [current]
  | .word pieces :: rest => commands { current with words := current.words ++ [pieces] } rest
  | .redirect true goal :: rest =>
    commands { current with errors := if goal = .output then current.output else goal } rest
  | .redirect false goal :: rest =>
    commands { current with output := if goal = .errors then current.errors else goal } rest
  | .next :: rest => current :: commands ⟨.always, [], .output, .errors⟩ rest
  | .andThen :: rest => current :: commands ⟨.ifTrue, [], .output, .errors⟩ rest
  | .orElse :: rest => current :: commands ⟨.ifFalse, [], .output, .errors⟩ rest

def commandsOf (script : String) : List Command :=
  (commands ⟨.always, [], .output, .errors⟩ (read script)).filter fun c => ¬ c.words.isEmpty

end Sluice.Script
