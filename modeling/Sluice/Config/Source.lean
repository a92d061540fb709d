import Sluice.Config.Basic
import Sluice.Yaml.Value

/-!
# Documents and their includes

A `Source` is a document that is being read: its name in positions, the directory that its includes
are seen from, and the stack of the files being read.  Opening a file puts it on the stack; a file
that is there already is refused.  So the number of files that are not on the stack falls with every
file that is opened, which is why reading ends whatever includes what.
-/

namespace Sluice

/-- A file that has been opened, and how many files were being read then. -/
structure Opening where
  file : Location
  depth : Nat
deriving DecidableEq, Repr

/-- Reading a configuration notes the files it opens, and stops at the first error. -/
abbrev Loading := StateT (List Opening) (Except LoadError)

def Position.refuse {m : Type → Type} [MonadExceptOf LoadError m] {α : Type} (position : Position)
    (flaw : DocumentFlaw) : m α :=
  throwThe LoadError (.malformed position flaw)

/-- A document that is being read. -/
structure Source where
  name : String
  directory : String
  stack : List Location

namespace Source

def root (s : Source) : Position := ⟨s.name, []⟩

/-- The number of files that are not being read. -/
def unread (tree : FileTree) (s : Source) : Nat :=
  (tree.locations.filter fun l => l ∉ s.stack).length

theorem unread_cons_lt {tree : FileTree} {s : Source} {l : Location} (name directory : String)
    (hl : l ∈ tree.locations) (hs : l ∉ s.stack) :
    unread tree ⟨name, directory, l :: s.stack⟩ < s.unread tree := by
  have hsub : (tree.locations.filter fun k => k ∉ l :: s.stack) =
      (tree.locations.filter fun k => k ∉ s.stack).filter fun k => k ≠ l := by
    rw [List.filter_filter]
    congr 1
    funext k
    simp only [List.mem_cons, not_or, ne_eq, Bool.decide_and]
  unfold unread
  rw [hsub]
  refine List.length_filter_lt_length_iff_exists.2 ⟨l, ?_, by simp⟩
  simp [hl, hs]

/-- What opening a file gives: its document, and the source to read on from. -/
structure Opened (tree : FileTree) (s : Source) where
  document : Json
  source : Source
  opening : Opening
  fewer : source.unread tree < s.unread tree

/-- Opens the file that a path leads to. -/
def openFile (tree : FileTree) (s : Source) (path : String) : Except LoadError (Opened tree s) :=
  match tree.locate path with
  | .error fault => .error (.unreadable path fault)
  | .ok file =>
    if hs : file ∈ s.stack then .error (.includeCycle file)
    else match hl : tree.textAt file with
      | .error fault => .error (.unreadable path fault)
      | .ok text => match Yaml.read? text.toList with
        | none => .error (.notYaml path)
        | some document =>
          .ok ⟨document, ⟨path, Location.text file.dropLast, file :: s.stack⟩,
            ⟨file, s.stack.length⟩,
            unread_cons_lt _ _ (FileTree.mem_locations_of_textAt hl) hs⟩

/-- What an include gives: the list in the file, and the source to read on from. -/
structure Included (tree : FileTree) (s : Source) where
  items : List Json
  source : Source
  fewer : source.unread tree < s.unread tree

/-- Follows an include to the list it stands for. -/
def follow (tree : FileTree) (s : Source) (target : Json) (position : Position) :
    Loading (Included tree s) :=
  match target with
  | .string path => do
    let o ← StateT.lift (s.openFile tree (FileTree.join s.directory path))
    modify (· ++ [o.opening])
    match o.document with
    | .list items => return ⟨items, o.source, o.fewer⟩
    | _ => o.source.root.refuse .includedNotList
  | _ => position.refuse .includeNotPath

end Source

end Sluice
