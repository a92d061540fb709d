import Sluice.Host
import Sluice.Host.Script

/-!
# Programs that need nothing but a file tree

`Shell.run` runs the programs that can be run without an operating system: `true`, `false`, `echo`,
`printf`, `cat`, `pwd`, `sleep` and `sh`, which runs scripts of such commands.  The files of the
tree are no programs: they may not be executed.
-/

namespace Sluice.Shell

/-- The state of a shell: where it is, how the last command has ended, and what it has read and
written. -/
structure State where
  place : Location
  status : Nat
  input : List UInt8
  output : List UInt8
  errors : List UInt8

/-- What a command does to a shell. -/
inductive Effect where
  | done (status : Nat) (output errors : List UInt8)
  | drained (output : List UInt8)
  | moved (place : Location)
  | ended (status : Nat)
  | killed

/-- A command that ends with texts for its output and its errors. -/
def Effect.said (status : Nat) (output errors : String) : Effect :=
  .done status (Text.encode output) (Text.encode errors)

/-- The number that a shell takes for its own. -/
def ownNumber : String := "2"

/-- The natural that a text spells, or 0. -/
def number (s : String) : Nat := s.toNat?.getD 0

def octalDigits (cs : List Char) : List Char := (cs.take 3).takeWhile fun c => '0' ≤ c ∧ c ≤ '7'

def octalByte (ds : List Char) : UInt8 :=
  UInt8.ofNat (ds.foldl (fun n d => 8 * n + (d.toNat - '0'.toNat)) 0)

/-- What `printf` writes for a format: `%s` and `%d` take an argument, `\n`, `\t` and octal digits
behind a backslash are escapes. -/
def formatted (cs : List Char) (args : List String) : List UInt8 :=
  match cs with
  | [] => []
  | '%' :: '%' :: rest => Text.encode "%" ++ formatted rest args
  | '%' :: 's' :: rest => Text.encode (args.headD "") ++ formatted rest args.tail
  | '%' :: 'd' :: rest => Text.encode (args.headD "") ++ formatted rest args.tail
  | '\\' :: 'n' :: rest => Text.encode "\n" ++ formatted rest args
  | '\\' :: 't' :: rest => Text.encode "\t" ++ formatted rest args
  | '\\' :: rest =>
    let ds := octalDigits rest
    (if ds.isEmpty then Text.encode "\\" else [octalByte ds]) ++
      formatted (rest.drop ds.length) args
  | c :: rest => Text.encode (String.singleton c) ++ formatted rest args
termination_by cs.length

/-- What `cat` writes: its input, or files. -/
def concatenated (files : FileTree) (s : State) (args : List String) : Effect :=
  if args.isEmpty then .drained s.input
  else
    let contents (path : String) : Except FileFault (List UInt8) :=
      if path = "-" then .ok s.input else do files.bytesAt (← files.locateFrom s.place path)
    match args.mapM contents with
    | .ok parts => .drained parts.flatten
    | .error _ => .said 1 "" ("cat: " ++ args.headD "" ++ ": No such file or directory\n")

/-- A program that is no shell, if there is one of the name. -/
def program? (files : FileTree) (s : State) (args : List String) : String → Option Effect
  | "true" | ":" => some (.said 0 "" "")
  | "false" => some (.said 1 "" "")
  | "sleep" => some (.said 0 "" "")
  | "echo" =>
    let (words, ending) := match args with
      | "-n" :: rest => (rest, "")
      | _ => (args, "\n")
    some (.said 0 (" ".intercalate words ++ ending) "")
  | "printf" => some (.done 0 (formatted (args.headD "").toList args.tail) [])
  | "pwd" => some (.said 0 (s.place.text ++ "\n") "")
  | "cat" => some (concatenated files s args)
  | _ => none

/-- A command that only a shell knows, if there is one of the name. -/
def builtin? (files : FileTree) (s : State) (args : List String) : String → Option Effect
  | "exit" => some (.ended ((args.head?.map number).getD s.status % 256))
  | "kill" =>
    some (if args.getLast? = some ownNumber ∧ args.head? ≠ some "-0" then .killed
      else .said 1 "" "sh: kill: No such process\n")
  | "cd" => match files.locateFrom s.place (args.headD files.home) with
    | .ok l => some (if files.isDirectory l then .moved l else .said 2 "" "sh: cd: can't cd\n")
    | .error _ => some (.said 2 "" "sh: cd: can't cd\n")
  | _ => none

/-- The value of a parameter of a script. -/
def parameter (files : FileTree) (s : State) (args : List String) (name : String) : String :=
  if name = "$" then ownNumber
  else if name = "?" then toString s.status
  else if name = "#" then toString (args.length - 1)
  else if name = "@" ∨ name = "*" then " ".intercalate args.tail
  else if name = "HOME" then files.home
  else if name = "PWD" then s.place.text
  else match name.toNat? with
    | some n => args.getD n ""
    | none => ""

def expand (files : FileTree) (s : State) (args : List String) (word : List Script.Piece) :
    String :=
  String.join (word.map fun
    | .text t => t
    | .parameter name => parameter files s args name)

/-- The name of a program without the directory where programs are. -/
def bareName (program : String) : String :=
  match (["/bin/", "/usr/bin/"].find? fun dir => program.startsWith dir) with
  | some dir => (program.drop dir.length).toString
  | none => program

/-- Writes the output and the errors of a command where they go. -/
def State.write (s : State) (outTo errTo : Script.Target) (out err : List UInt8) : State :=
  let append (t : Script.Target) (bytes : List UInt8) (s : State) : State := match t with
    | .output => { s with output := s.output ++ bytes }
    | .errors => { s with errors := s.errors ++ bytes }
    | .nowhere => s
  append errTo err (append outTo out s)

/-- How a script goes on after a command: with a state, or not at all. -/
abbrev Progress := Except Ended State

/-- Ends a shell with a status. -/
def State.finish (s : State) (status : Nat) : Ended := .exited status s.output s.errors

/-- Whether a command runs after the one before it. -/
def links (s : State) : Script.Link → Bool
  | .always => true
  | .ifTrue => s.status = 0
  | .ifFalse => s.status ≠ 0

mutual

/-- Runs a script with its name and its arguments; `depth` limits shells in shells. -/
def script (files : FileTree) (depth : Nat) (args : List String) (s : State) (text : String) :
    Ended :=
  match (Script.commandsOf text).foldlM (command files depth args) s with
  | .ok s => s.finish s.status
  | .error ended => ended
termination_by (depth, 1)

def command (files : FileTree) (depth : Nat) (args : List String) (s : State) (c : Script.Command) :
    Progress :=
  if ¬ links s c.link then .ok s
  else match c.words.map (expand files s args) with
    | [] => .ok s
    | name :: rest =>
      let effect := (builtin? files s rest name).orElse fun _ =>
        program? files s rest (bareName name)
      match effect with
      | some (.done status out err) => .ok { s.write c.output c.errors out err with status }
      | some (.drained out) =>
        .ok { s.write c.output c.errors out [] with status := 0, input := [] }
      | some (.moved place) => .ok { s with place, status := 0 }
      | some (.ended status) => .error (s.finish status)
      | some .killed => .error .killed
      | none => match depth, bareName name with
        | depth + 1, "sh" => match shell files depth rest s with
          | .exited status out err => .ok { s.write c.output c.errors out err with status }
          | .killed => .ok { s with status := 137 }
        | _, _ =>
          let note := Text.encode ("sh: 1: " ++ name ++ ": not found\n")
          .ok { s.write c.output c.errors [] note with status := 127 }
termination_by (depth, 0)

def shell (files : FileTree) (depth : Nat) (args : List String) (s : State) : Ended :=
  let fresh := { s with status := 0, output := [], errors := [] }
  match args with
  | "-c" :: text :: rest => script files depth (if rest.isEmpty then ["sh"] else rest) fresh text
  | [] => script files depth ["sh"] { fresh with input := [] } (Text.decode s.input)
  | path :: rest => match files.locateFrom s.place path >>= files.textAt with
    | .ok text => script files depth (path :: rest) fresh text
    | .error _ => .exited 2 [] (Text.encode ("sh: 0: cannot open " ++ path ++ ": No such file\n"))
termination_by (depth, 2)

end

/-- How deep shells may start shells. -/
def depthLimit : Nat := 8

/-- The texts of a launch that reach a program. -/
def launchTexts (l : Launch) : List String := l.program :: l.args ++ l.directory.toList

/-- Runs a program.  No text that reaches it may hold a zero. -/
def run (files : FileTree) (l : Launch) : Except FileFault Ended := do
  if (launchTexts l).any (·.toList.contains '\x00') then throw .zeroInText
  let place ← match l.directory with
    | none => pure files.workDir
    | some dir => do
      let place ← files.locate dir
      if files.isDirectory place then pure place else throw .notDirectory
  let s : State := ⟨place, 0, Text.encode (l.input.getD ""), [], []⟩
  let name := bareName l.program
  if name = "sh" then return shell files depthLimit l.args s
  match program? files s l.args name with
  | some (.done status out err) => return .exited status out err
  | some (.drained out) => return .exited 0 out []
  | some _ => return .killed
  | none =>
    if l.program.toList.contains '/' then
      discard (files.locateFrom place l.program)
      throw .denied
    else throw .missing

end Sluice.Shell
