import Sluice.Config.Reader

/-!
# Reading step by step

How a reading that goes on with another one succeeds or fails, and what opening a file takes.  The
place of a file and the document in it are named here without the stack of the files being read.
-/

namespace Sluice

namespace Loading

variable {α β : Type} {x : Loading α} {f : α → Loading β} {o o' : List Opening}

theorem run_pure (a : α) (o : List Opening) : (pure a : Loading α).run o = .ok (a, o) := rfl

theorem run_bind_eq_ok {b : β} :
    (x >>= f).run o = .ok (b, o') ↔ ∃ a o₁, x.run o = .ok (a, o₁) ∧ (f a).run o₁ = .ok (b, o') := by
  rw [StateT.run_bind]
  cases x.run o with
  | error e => simp [bind, Except.bind]
  | ok r =>
    obtain ⟨a, o₁⟩ := r
    simp [bind, Except.bind, and_assoc]

theorem run_bind_eq_error {e : LoadError} :
    (x >>= f).run o = .error e ↔
      x.run o = .error e ∨ ∃ a o₁, x.run o = .ok (a, o₁) ∧ (f a).run o₁ = .error e := by
  rw [StateT.run_bind]
  cases x.run o with
  | error e => simp [bind, Except.bind]
  | ok r =>
    obtain ⟨a, o₁⟩ := r
    simp [bind, Except.bind, and_assoc]

/-- Whether a reading succeeds when some files have been opened before. -/
def Succeeds (x : Loading α) (o : List Opening) : Prop := ∃ r, x.run o = .ok r

theorem succeeds_pure (a : α) (o : List Opening) : Succeeds (pure a : Loading α) o := ⟨_, rfl⟩

theorem not_succeeds_refuse (position : Position) (flaw : DocumentFlaw) (o : List Opening) :
    ¬ Succeeds (position.refuse flaw : Loading α) o := by
  rintro ⟨r, hr⟩
  cases hr

/-- A reading succeeds with what follows if it succeeds itself, and what follows has a condition
that depends neither on what has been read nor on the files that have been opened. -/
theorem succeeds_bind {p : Prop} (h : ∀ a o₁, Succeeds (f a) o₁ ↔ p) :
    Succeeds (x >>= f) o ↔ Succeeds x o ∧ p := by
  constructor
  · rintro ⟨⟨b, o'⟩, hr⟩
    obtain ⟨a, o₁, hx, hf⟩ := run_bind_eq_ok.1 hr
    exact ⟨⟨_, hx⟩, (h a o₁).1 ⟨_, hf⟩⟩
  · rintro ⟨⟨⟨a, o₁⟩, hx⟩, hp⟩
    obtain ⟨⟨b, o'⟩, hf⟩ := (h a o₁).2 hp
    exact ⟨_, run_bind_eq_ok.2 ⟨a, o₁, hx, hf⟩⟩

theorem succeeds_map {g : α → β} : Succeeds (x >>= fun a => pure (g a)) o ↔ Succeeds x o := by
  rw [succeeds_bind (p := True) fun a o₁ => iff_true_intro (succeeds_pure (g a) o₁), and_true]

end Loading

/-! ## Files -/

namespace FileTree

/-- The document in the file at a place. -/
def documentAt? (tree : FileTree) (file : Location) : Option Json :=
  match tree.textAt file with
  | .ok text => Yaml.read? text.toList
  | .error _ => none

/-- The file that an include leads to, seen from a directory. -/
def target? (tree : FileTree) (directory : String) : Json → Option Location
  | .string path => (tree.locate (join directory path)).toOption
  | _ => none

/-- The directory that the includes in a file are seen from. -/
def directoryOf (file : Location) : String := Location.text file.dropLast

theorem documentAt?_of_textAt {tree : FileTree} {file : Location} {text : String}
    (h : tree.textAt file = .ok text) : tree.documentAt? file = Yaml.read? text.toList := by
  rw [documentAt?, h]

theorem mem_locations_of_documentAt? {tree : FileTree} {file : Location} {document : Json}
    (h : tree.documentAt? file = some document) : file ∈ tree.locations := by
  unfold documentAt? at h
  cases ht : tree.textAt file with
  | error fault => simp [ht] at h
  | ok text => exact mem_locations_of_textAt ht

end FileTree

namespace Source

variable {tree : FileTree} {source : Source}

/-- All that opening a file can come to. -/
theorem openFile_cases (tree : FileTree) (source : Source) (path : String) :
    (∃ fault, tree.locate path = .error fault ∧
      source.openFile tree path = .error (.unreadable path fault)) ∨
    ∃ file, tree.locate path = .ok file ∧
      ((file ∈ source.stack ∧ source.openFile tree path = .error (.includeCycle file)) ∨
      (file ∉ source.stack ∧
        ((∃ fault, tree.textAt file = .error fault ∧
          source.openFile tree path = .error (.unreadable path fault)) ∨
        ∃ text, tree.textAt file = .ok text ∧
          ((Yaml.read? text.toList = none ∧
            source.openFile tree path = .error (.notYaml path)) ∨
          ∃ document fewer, Yaml.read? text.toList = some document ∧
            source.openFile tree path =
              .ok ⟨document, ⟨path, FileTree.directoryOf file, file :: source.stack⟩,
                ⟨file, source.stack.length⟩, fewer⟩)))) := by
  unfold openFile
  split
  · next fault hlocate => exact .inl ⟨fault, hlocate, rfl⟩
  · next file hlocate =>
    refine .inr ⟨file, hlocate, ?_⟩
    by_cases hstack : file ∈ source.stack
    · rw [dif_pos hstack]
      exact .inl ⟨hstack, rfl⟩
    · rw [dif_neg hstack]
      refine .inr ⟨hstack, ?_⟩
      split
      · next fault htext => exact .inl ⟨fault, htext, rfl⟩
      · next text htext =>
        refine .inr ⟨text, htext, ?_⟩
        split
        · next hread => exact .inl ⟨hread, rfl⟩
        · next document hread =>
          exact .inr ⟨document,
            unread_cons_lt path _ (FileTree.mem_locations_of_textAt htext) hstack, hread, rfl⟩

/-- Opening a file takes a file that is not being read and holds a document. -/
theorem openFile_eq_ok {path : String} {opened : Opened tree source}
    (h : source.openFile tree path = .ok opened) :
    ∃ file, tree.locate path = .ok file ∧ file ∉ source.stack ∧
      tree.documentAt? file = some opened.document ∧
      opened.source = ⟨path, FileTree.directoryOf file, file :: source.stack⟩ ∧
      opened.opening = ⟨file, source.stack.length⟩ := by
  obtain ⟨fault, -, ho⟩ | ⟨file, hlocate, ⟨-, ho⟩ | ⟨hstack, ⟨fault, -, ho⟩ | ⟨text, htext,
    ⟨-, ho⟩ | ⟨document, fewer, hread, ho⟩⟩⟩⟩ := openFile_cases tree source path <;>
    rw [ho] at h <;> cases h
  exact ⟨file, hlocate, hstack, (FileTree.documentAt?_of_textAt htext).trans hread, rfl, rfl⟩

/-- A file that is not being read and holds a document is opened. -/
theorem exists_openFile {path : String} {file : Location} {document : Json}
    (hfile : tree.locate path = .ok file) (hstack : file ∉ source.stack)
    (hdocument : tree.documentAt? file = some document) :
    ∃ opened, source.openFile tree path = .ok opened ∧ opened.document = document := by
  obtain ⟨fault, hlocate, -⟩ | ⟨file', hlocate, hcases⟩ := openFile_cases tree source path
  · rw [hfile] at hlocate
    cases hlocate
  · rw [hfile] at hlocate
    cases hlocate
    obtain ⟨hmem, -⟩ | ⟨-, ⟨fault, htext, -⟩ | ⟨text, htext, hcases⟩⟩ := hcases
    · exact absurd hmem hstack
    · simp [FileTree.documentAt?, htext] at hdocument
    · rw [FileTree.documentAt?_of_textAt htext] at hdocument
      obtain ⟨hread, -⟩ | ⟨document', fewer, hread, ho⟩ := hcases <;>
        rw [hdocument] at hread <;> cases hread
      exact ⟨_, ho, rfl⟩

theorem openFile_eq_includeCycle {path : String} {file : Location}
    (h : source.openFile tree path = .error (.includeCycle file)) :
    tree.locate path = .ok file ∧ file ∈ source.stack := by
  obtain ⟨fault, -, ho⟩ | ⟨file', hlocate, ⟨hstack, ho⟩ | ⟨-, ⟨fault, -, ho⟩ | ⟨text, -,
    ⟨-, ho⟩ | ⟨document, fewer, -, ho⟩⟩⟩⟩ := openFile_cases tree source path <;>
    rw [ho] at h <;> cases h
  exact ⟨hlocate, hstack⟩

end Source

end Sluice
