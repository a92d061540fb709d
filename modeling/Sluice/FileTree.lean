import Sluice.Text.Split
import Sluice.Text.Utf8

/-!
# File trees

A file tree is a finite set of files with their contents; the directories are what lies above a
file.  A path is resolved name by name: every name but the last one has to lead to a directory, a
final `/` asks for a directory too, and `..` leads up (at the root it stays there).  What can go
wrong has the wording and the number of the operating system.

There are no symbolic links: every file has one place, so the place that a path leads to is its
canonical form, and two paths lead to the same file if and only if they lead to the same place.
Where a disk has links, this is the tree of the places behind them.
-/

namespace Sluice

/-- A place in a file tree: the names from the root on. -/
abbrev Location := List String

def Location.text (l : Location) : String := "/" ++ String.intercalate "/" l

/-- What goes wrong with a file or a program. -/
inductive FileFault where
  | missing | denied | notDirectory | isDirectory | nameTooLong | zeroInName | zeroInText | notText
deriving DecidableEq, Repr

def FileFault.message : FileFault → String
  | .missing => "No such file or directory (os error 2)"
  | .denied => "Permission denied (os error 13)"
  | .notDirectory => "Not a directory (os error 20)"
  | .isDirectory => "Is a directory (os error 21)"
  | .nameTooLong => "File name too long (os error 36)"
  | .zeroInName => "file name contained an unexpected NUL byte"
  | .zeroInText => "nul byte found in provided data"
  | .notText => "stream did not contain valid UTF-8"

/-- Files by place, with the directory that relative paths start from and the home directory. -/
structure FileTree where
  files : List (Location × List UInt8)
  workDir : Location
  home : String

namespace FileTree

def locations (t : FileTree) : List Location := t.files.map (·.1)

def isDirectory (t : FileTree) (l : Location) : Bool :=
  l.isPrefixOf t.workDir || t.files.any fun f => f.1 ≠ l && l.isPrefixOf f.1

def has (t : FileTree) (l : Location) : Bool := t.isDirectory l || t.locations.contains l

/-- The bytes that one name of a path may have. -/
def nameLimit : Nat := 255

/-- Follows one name of a path. -/
def follow (t : FileTree) (l : Location) (name : String) : Except FileFault Location :=
  if ¬ t.isDirectory l then .error .notDirectory
  else if name = "" ∨ name = "." then .ok l
  else if name = ".." then .ok l.dropLast
  else if nameLimit < name.utf8ByteSize then .error .nameTooLong
  else if t.has (l ++ [name]) then .ok (l ++ [name])
  else .error .missing

/-- Where a path leads, seen from a directory. -/
def locateFrom (t : FileTree) (dir : Location) (path : String) : Except FileFault Location :=
  if path = "" then .error .missing
  else if path.toList.contains '\x00' then .error .zeroInName
  else match (Text.splitAt '/' path.toList).map String.ofList with
    | "" :: names => names.foldlM t.follow []
    | names => names.foldlM t.follow dir

/-- Where a path leads. -/
def locate (t : FileTree) (path : String) : Except FileFault Location := t.locateFrom t.workDir path

/-- The bytes of the file at a place. -/
def bytesAt (t : FileTree) (l : Location) : Except FileFault (List UInt8) :=
  match t.files.find? (fun f => f.1 = l) with
  | some f => .ok f.2
  | none => .error .isDirectory

/-- The text of the file at a place. -/
def textAt (t : FileTree) (l : Location) : Except FileFault String :=
  match t.bytesAt l with
  | .error e => .error e
  | .ok bytes => match Text.decode? bytes with
    | some s => .ok s
    | none => .error .notText

def read (t : FileTree) (path : String) : Except FileFault String := do t.textAt (← t.locate path)

theorem mem_locations_of_textAt {t : FileTree} {l : Location} {s : String}
    (h : t.textAt l = .ok s) :
    l ∈ t.locations := by
  unfold textAt bytesAt at h
  cases hf : t.files.find? (fun f => f.1 = l) with
  | none => simp [hf] at h
  | some f =>
    have hm := List.mem_of_find?_eq_some hf
    have hp : f.1 = l := by simpa using List.find?_some hf
    exact List.mem_map.2 ⟨f, hm, hp⟩

/-- A path seen from a directory: an absolute one stands for itself. -/
def join (dir path : String) : String :=
  if path.startsWith "/" ∨ dir = "" then path
  else if dir.endsWith "/" then dir ++ path
  else dir ++ "/" ++ path

/-- A path with a leading `~` replaced by the home directory. -/
def expandHome (t : FileTree) (path : String) : String :=
  match path.toList with
  | ['~'] => t.home
  | '~' :: '/' :: rest => join t.home (String.ofList rest)
  | _ => path

end FileTree

end Sluice
