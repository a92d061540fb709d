import Sluice.Proofs.Loading.Basic
import Sluice.Proofs.Loading.Targets

/-!
# Followed includes

* `Followed` — a reading of includes that went well: every target leads to a file that is not being
  read, and the includes in that file have been followed with the file on the stack;
* `Closes` — a reading of includes that met a cycle: from include to include to a file that is being
  read;
* `followed_of_load` — a file that is loaded has had all its includes followed;
* `closes_of_load` — a file that is refused for a cycle has an include that closes it.
-/

namespace Sluice.Config

/-! ## Following an include -/

section Follow

variable {tree : FileTree} {source : Source} {target : Json} {position : Position}
  {o o' : List Opening}

theorem run_follow_string (path : String) :
    (source.follow tree (.string path) position).run o =
      match source.openFile tree (FileTree.join source.directory path) with
      | .error e => .error e
      | .ok opened => match opened.document with
        | .list items => .ok (⟨items, opened.source, opened.fewer⟩, o ++ [opened.opening])
        | _ => .error (.malformed opened.source.root .includedNotList) := by
  unfold Source.follow
  rw [StateT.run_bind]
  cases source.openFile tree (FileTree.join source.directory path) with
  | error e => rfl
  | ok opened =>
    obtain ⟨document, source', opening, fewer⟩ := opened
    cases document <;> rfl

theorem target?_string_eq_some_iff {directory path : String} {file : Location} :
    tree.target? directory (.string path) = some file ↔
      tree.locate (FileTree.join directory path) = .ok file := by
  rw [FileTree.target?]
  cases tree.locate (FileTree.join directory path) <;> simp [Except.toOption]

/-- What an include that is followed leads to. -/
theorem run_follow_eq_ok {i : source.Included tree}
    (h : (source.follow tree target position).run o = .ok (i, o')) :
    ∃ path file, target = .string path ∧ tree.target? source.directory target = some file ∧
      file ∉ source.stack ∧ tree.documentAt? file = some (.list i.items) ∧
      i.source = ⟨FileTree.join source.directory path, FileTree.directoryOf file,
        file :: source.stack⟩ ∧
      o' = o ++ [⟨file, source.stack.length⟩] := by
  cases target with
  | string path =>
    rw [run_follow_string] at h
    split at h
    · cases h
    · next opened hopen =>
      obtain ⟨file, hfile, hstack, hdocument, hsource, hopening⟩ := Source.openFile_eq_ok hopen
      split at h
      · next items hitems =>
        cases h
        exact ⟨path, file, rfl, target?_string_eq_some_iff.2 hfile, hstack,
          hitems ▸ hdocument, hsource, by rw [hopening]⟩
      · cases h
  | _ => cases h

/-- An include is followed if it leads to a list in a file that is not being read. -/
theorem exists_run_follow (position : Position) {file : Location} {items : List Json}
    (htarget : tree.target? source.directory target = some file) (hstack : file ∉ source.stack)
    (hdocument : tree.documentAt? file = some (.list items)) :
    ∃ i : source.Included tree, i.items = items ∧ ∀ o,
      (source.follow tree target position).run o =
        .ok (i, o ++ [⟨file, source.stack.length⟩]) := by
  cases target with
  | string path =>
    have hfile := target?_string_eq_some_iff.1 htarget
    obtain ⟨opened, hopen, hitems⟩ := Source.exists_openFile hfile hstack hdocument
    obtain ⟨file', hfile', -, -, -, hopening⟩ := Source.openFile_eq_ok hopen
    rw [hfile] at hfile'
    cases hfile'
    refine ⟨⟨items, opened.source, opened.fewer⟩, rfl, fun o => ?_⟩
    rw [run_follow_string, hopen]
    simp only [hitems, hopening]
  | _ => cases htarget

/-- An include that closes a cycle leads to a file that is being read. -/
theorem run_follow_eq_includeCycle {file : Location}
    (h : (source.follow tree target position).run o = .error (.includeCycle file)) :
    tree.target? source.directory target = some file ∧ file ∈ source.stack := by
  cases target with
  | string path =>
    rw [run_follow_string] at h
    split at h
    · next e hopen =>
      cases h
      obtain ⟨hfile, hstack⟩ := Source.openFile_eq_includeCycle hopen
      exact ⟨target?_string_eq_some_iff.2 hfile, hstack⟩
    · split at h <;> cases h
  | _ => cases h

end Follow

/-! ## What a reading does with its includes -/

/-- One run after the other, for some includes, from the files opened before to those
afterwards. -/
inductive Visits (run : Target → List Opening → List Opening → Prop) :
    List Target → List Opening → List Opening → Prop
  | nil {o} : Visits run [] o o
  | cons {t ts o o₁ o₂} (first : run t o o₁) (rest : Visits run ts o₁ o₂) :
    Visits run (t :: ts) o o₂

theorem Visits.append {run : Target → List Opening → List Opening → Prop} {ts us : List Target}
    {o o₁ o₂ : List Opening} (h : Visits run ts o o₁) (h' : Visits run us o₁ o₂) :
    Visits run (ts ++ us) o o₂ := by
  induction h with
  | nil => exact h'
  | cons first _ ih => exact .cons first (ih h')

/-- What a reading does with its includes: if it succeeds it has visited them all, and if it reports
a cycle one of them has reported it. -/
structure Follows (run : Target → List Opening → List Opening → Prop)
    (reports : Location → Target → Prop) (α : Type) (ts : List Target) (x _y : Loading α) :
    Prop where
  visits {a : α} {o o' : List Opening} (h : x.run o = .ok (a, o')) : Visits run ts o o'
  reports {file : Location} {o : List Opening} (h : x.run o = .error (.includeCycle file)) :
    ∃ t ∈ ts, reports file t

theorem carries_follows (run : Target → List Opening → List Opening → Prop)
    (reports : Location → Target → Prop) : Carries (Follows run reports) where
  pure a := by
    constructor
    · intro b o o' h
      cases h
      exact .nil
    · intro file o h
      cases h
  bind first rest := by
    constructor
    · intro b o o' h
      obtain ⟨a, o₁, h₁, h₂⟩ := Loading.run_bind_eq_ok.1 h
      exact (first.visits h₁).append ((rest a).visits h₂)
    · intro file o h
      obtain h₁ | ⟨a, o₁, -, h₂⟩ := Loading.run_bind_eq_error.1 h
      -- the cycle is reported by the part that runs into it
      · obtain ⟨t, ht, hr⟩ := first.reports h₁
        exact ⟨t, List.mem_append_left _ ht, hr⟩
      · obtain ⟨t, ht, hr⟩ := (rest a).reports h₂
        exact ⟨t, List.mem_append_right _ ht, hr⟩
  refuse ts position flaw := by
    constructor
    · intro b o o' h
      cases h
    · intro file o h
      cases h

section Expansion

variable {tree : FileTree} {known : String → Bool} {source : Source}

/-- What an include of a source points to is spliced in somewhere. -/
def Expands (tree : FileTree) (known : String → Bool) (source : Source) :
    Target → List Opening → List Opening → Prop
  | (.steps, target), o, o' =>
    ∃ position steps, (stepsOf tree known source target position).run o = .ok (steps, o')
  | (.entries, target), o, o' =>
    ∃ position pipes, (pipesOf tree known source target position).run o = .ok (pipes, o')

/-- What an include of a source points to leads to a cycle somewhere. -/
def Reports (tree : FileTree) (known : String → Bool) (source : Source) (file : Location) :
    Target → Prop
  | (.steps, target) => ∃ position o,
    (stepsOf tree known source target position).run o = .error (.includeCycle file)
  | (.entries, target) => ∃ position o,
    (pipesOf tree known source target position).run o = .error (.includeCycle file)

theorem splices_stepsOf : Splices (Follows (Expands tree known source) (Reports tree known source))
    .steps (stepsOf tree known source) (stepsOf tree known source) := by
  intro target position
  constructor
  · intro steps o o' h
    exact .cons ⟨position, steps, h⟩ .nil
  · intro file o h
    exact ⟨_, List.mem_singleton_self _, position, o, h⟩

theorem splices_pipesOf : Splices (Follows (Expands tree known source) (Reports tree known source))
    .entries (pipesOf tree known source) (pipesOf tree known source) := by
  intro target position
  constructor
  · intro pipes o o' h
    exact .cons ⟨position, pipes, h⟩ .nil
  · intro file o h
    exact ⟨_, List.mem_singleton_self _, position, o, h⟩

theorem follows_readSteps (position : Position) (index : Nat) (items : List Json) :
    Follows (Expands tree known source) (Reports tree known source) _ (targets .steps items)
      (readSteps known (stepsOf tree known source) position index items)
      (readSteps known (stepsOf tree known source) position index items) :=
  (carries_follows _ _).readSteps known splices_stepsOf position index items

theorem follows_readEntries (mayInit : Bool) (root : Position) (index : Nat) (items : List Json) :
    Follows (Expands tree known source) (Reports tree known source) _ (targets .entries items)
      (readEntries known (stepsOf tree known source) (pipesOf tree known source) mayInit root index
        items)
      (readEntries known (stepsOf tree known source) (pipesOf tree known source) mayInit root index
        items) :=
  (carries_follows _ _).readEntries known splices_stepsOf splices_pipesOf mayInit root index items

/-! ## What following leaves behind -/

/-- A list without an `init` block. -/
def NoInit (items : List Json) : Prop :=
  ∀ fields, .map fields ∈ items →
    Fields.get? "include" fields = none → Fields.get? "init" fields = none

theorem not_run_readInit_later {splice : Splice Loading Step} {position : Position}
    {fields : Fields Json} {init : Json} {r : List Step × List Opening} {o : List Opening} :
    (readInit known splice false position fields init).run o ≠ .ok r := by
  obtain ⟨steps, o'⟩ := r
  intro h
  obtain ⟨_, o₁, -, h₂⟩ := Loading.run_bind_eq_ok.1 h
  cases h₂

/-- A later entry of a document is no `init` block. -/
theorem noInit_of_run_readEntry {splice : Splice Loading Step} {splicePipes : Splice Loading Pipe}
    {position : Position} {entry : Json} {c : Config} {o o' : List Opening}
    (h : (readEntry known splice splicePipes false position entry).run o = .ok (c, o')) :
    NoInit [entry] ∧ c.init = none := by
  cases entry with
  | map fields =>
    simp only [readEntry] at h
    cases hinclude : Fields.get? "include" fields with
    | some target =>
      simp only [hinclude] at h
      obtain ⟨_, o₁, -, h₂⟩ := Loading.run_bind_eq_ok.1 h
      obtain ⟨pipes, o₂, -, h₃⟩ := Loading.run_bind_eq_ok.1 h₂
      cases h₃
      refine ⟨fun fields' hmem hinclude' => ?_, rfl⟩
      cases List.mem_singleton.1 hmem
      rw [hinclude] at hinclude'
      cases hinclude'
    | none =>
      cases hinit : Fields.get? "init" fields with
      | some init =>
        simp only [hinclude, hinit] at h
        obtain ⟨steps, o₁, h₁, -⟩ := Loading.run_bind_eq_ok.1 h
        exact absurd h₁ not_run_readInit_later
      | none =>
        simp only [hinclude, hinit] at h
        obtain ⟨pipe, o₁, -, h₂⟩ := Loading.run_bind_eq_ok.1 h
        cases h₂
        refine ⟨fun fields' hmem _ => ?_, rfl⟩
        cases List.mem_singleton.1 hmem
        exact hinit
  | _ => cases h

/-- An included document has no `init` block. -/
theorem noInit_of_run_readEntries {splice : Splice Loading Step} {splicePipes : Splice Loading Pipe}
    {root : Position} {index : Nat} {items : List Json} {c : Config} {o o' : List Opening}
    (h : (readEntries known splice splicePipes false root index items).run o = .ok (c, o')) :
    NoInit items ∧ c.init = none := by
  induction items generalizing index c o o' with
  | nil =>
    cases h
    exact ⟨fun _ hmem => absurd hmem List.not_mem_nil, rfl⟩
  | cons entry rest ih =>
    obtain ⟨first, o₁, h₁, h₂⟩ := Loading.run_bind_eq_ok.1 h
    obtain ⟨more, o₂, h₂, h₃⟩ := Loading.run_bind_eq_ok.1 h₂
    cases h₃
    obtain ⟨hentry, hfirst⟩ := noInit_of_run_readEntry h₁
    obtain ⟨hrest, hmore⟩ := ih h₂
    refine ⟨fun fields hmem => ?_, by simp [append, hfirst, hmore]⟩
    obtain rfl | hmem := List.mem_cons.1 hmem
    · exact hentry fields List.mem_cons_self
    · exact hrest fields hmem

/-- Includes that have been followed, seen from a directory while some files are being read: each
leads to another file with a list, whose includes have been followed too.  The files that were
opened are listed in order. -/
inductive Followed (tree : FileTree) :
    List Location → String → List Target → List Opening → Prop
  | nil {stack directory} : Followed tree stack directory [] []
  | cons {stack directory reading target file items more inner outer}
    (target_eq : tree.target? directory target = some file) (fresh : file ∉ stack)
    (document_eq : tree.documentAt? file = some (.list items))
    (plain : reading = .entries → NoInit items)
    (below : Followed tree (file :: stack) (FileTree.directoryOf file) (targets reading items)
      inner)
    (after : Followed tree stack directory more outer) :
    Followed tree stack directory ((reading, target) :: more)
      (⟨file, stack.length⟩ :: inner ++ outer)

/-- Whatever has been read of a file, its includes have been visited. -/
theorem visits_of_expands {reading : Reading} {target : Json} {o o' : List Opening}
    (h : Expands tree known source (reading, target) o o') :
    ∃ (i : source.Included tree) (position : Position) (o₁ : List Opening),
      (source.follow tree target position).run o = .ok (i, o₁) ∧
        (reading = .entries → NoInit i.items) ∧
        Visits (Expands tree known i.source) (targets reading i.items) o₁ o' := by
  cases reading with
  | steps =>
    obtain ⟨position, steps, h⟩ := h
    rw [stepsOf] at h
    obtain ⟨i, o₁, h₁, h₂⟩ := Loading.run_bind_eq_ok.1 h
    exact ⟨i, position, o₁, h₁, nofun, (follows_readSteps _ 0 i.items).visits h₂⟩
  | entries =>
    obtain ⟨position, pipes, h⟩ := h
    rw [pipesOf] at h
    obtain ⟨i, o₁, h₁, h₂⟩ := Loading.run_bind_eq_ok.1 h
    obtain ⟨c, o₂, h₂, h₃⟩ := Loading.run_bind_eq_ok.1 h₂
    cases h₃
    exact ⟨i, position, o₁, h₁, fun _ => (noInit_of_run_readEntries h₂).1,
      (follows_readEntries false _ 0 i.items).visits h₂⟩

/-- Visited includes have been followed.  The files outside of the stack become fewer from file to
file, and the targets from include to include. -/
theorem followed_of_visits {source : Source} {ts : List Target} {o o' : List Opening}
    (h : Visits (Expands tree known source) ts o o') :
    ∃ opened, o' = o ++ opened ∧ Followed tree source.stack source.directory ts opened := by
  induction h with
  | nil => exact ⟨[], by simp, .nil⟩
  | @cons t ts o o₁ o₂ first _ ih =>
    obtain ⟨reading, target⟩ := t
    obtain ⟨i, position, o₃, hfollow, hplain, hvisits⟩ := visits_of_expands first
    have hfewer := i.fewer
    obtain ⟨inner, rfl, hinner⟩ := followed_of_visits hvisits
    obtain ⟨path, file, -, htarget, hfresh, hdocument, hsource, rfl⟩ := run_follow_eq_ok hfollow
    obtain ⟨outer, rfl, houter⟩ := ih
    rw [hsource] at hinner
    exact ⟨⟨file, source.stack.length⟩ :: inner ++ outer, by simp,
      .cons htarget hfresh hdocument hplain hinner houter⟩
termination_by source.unread tree

/-- One of some includes closes a cycle, seen from a directory while some files are being read: it
leads to a file that is being read, or to another one in which an include closes a cycle. -/
inductive Closes (tree : FileTree) (file : Location) :
    List Location → String → List Target → Prop
  | here {stack directory ts reading target} (mem : (reading, target) ∈ ts)
    (target_eq : tree.target? directory target = some file) (reads : file ∈ stack) :
    Closes tree file stack directory ts
  | through {stack directory ts reading target next items} (mem : (reading, target) ∈ ts)
    (target_eq : tree.target? directory target = some next)
    (document_eq : tree.documentAt? next = some (.list items))
    (inside : Closes tree file (next :: stack) (FileTree.directoryOf next)
      (targets reading items)) :
    Closes tree file stack directory ts

/-- An include that leads to a cycle closes it itself, or an include in the file does that it leads
to. -/
theorem exists_of_reports {file : Location} {reading : Reading} {target : Json}
    (h : Reports tree known source file (reading, target)) :
    (tree.target? source.directory target = some file ∧ file ∈ source.stack) ∨
      ∃ (i : source.Included tree) (position : Position) (o o₁ : List Opening),
        (source.follow tree target position).run o = .ok (i, o₁) ∧
          ∃ t ∈ targets reading i.items, Reports tree known i.source file t := by
  cases reading with
  | steps =>
    obtain ⟨position, o, h⟩ := h
    rw [stepsOf] at h
    obtain h₁ | ⟨i, o₁, h₁, h₂⟩ := Loading.run_bind_eq_error.1 h
    · exact .inl (run_follow_eq_includeCycle h₁)
    · exact .inr ⟨i, position, o, o₁, h₁, (follows_readSteps _ 0 i.items).reports h₂⟩
  | entries =>
    obtain ⟨position, o, h⟩ := h
    rw [pipesOf] at h
    obtain h₁ | ⟨i, o₁, h₁, h₂⟩ := Loading.run_bind_eq_error.1 h
    · exact .inl (run_follow_eq_includeCycle h₁)
    · obtain h₂ | ⟨c, o₂, -, h₃⟩ := Loading.run_bind_eq_error.1 h₂
      · exact .inr ⟨i, position, o, o₁, h₁, (follows_readEntries false _ 0 i.items).reports h₂⟩
      · cases h₃

theorem closes_of_reports {source : Source} {file : Location} {ts : List Target} {t : Target}
    (ht : t ∈ ts) (h : Reports tree known source file t) :
    Closes tree file source.stack source.directory ts := by
  obtain ⟨reading, target⟩ := t
  obtain ⟨htarget, hstack⟩ | ⟨i, position, o, o₁, hfollow, u, hu, hreports⟩ := exists_of_reports h
  · exact .here ht htarget hstack
  · have hfewer := i.fewer
    obtain ⟨path, next, -, htarget, -, hdocument, hsource, -⟩ := run_follow_eq_ok hfollow
    have inside := closes_of_reports hu hreports
    rw [hsource] at inside
    exact .through ht htarget hdocument inside
termination_by source.unread tree

end Expansion

/-! ## Loading a file -/

section Files

variable {tree : FileTree} {known : String → Bool} {path : String}

theorem run_readFile (o : List Opening) :
    (readFile tree known path).run o =
      match Source.openFile tree ⟨path, "", []⟩ path with
      | .error e => .error e
      | .ok opened =>
        (ofDocument tree known opened.source opened.document).run (o ++ [opened.opening]) := by
  unfold readFile
  rw [StateT.run_bind]
  cases Source.openFile tree ⟨path, "", []⟩ path <;> rfl

/-- A file that is loaded holds a list, whose entries are read with the file on the stack. -/
theorem run_readEntries_of_load {c : Config} {openings : List Opening}
    (h : load tree known path = .ok (c, openings)) :
    ∃ start items, tree.locate path = .ok start ∧
      tree.documentAt? start = some (.list items) ∧
      let source : Source := ⟨path, FileTree.directoryOf start, [start]⟩
      (readEntries known (stepsOf tree known source) (pipesOf tree known source) true source.root 0
        items).run [⟨start, 0⟩] = .ok (c, openings) := by
  rw [load, run_readFile] at h
  split at h
  · cases h
  · next opened hopen =>
    obtain ⟨start, hstart, -, hdocument, hsource, hopening⟩ := Source.openFile_eq_ok hopen
    unfold ofDocument at h
    split at h
    · next items hitems =>
      rw [hsource, hopening] at h
      exact ⟨start, items, hstart, hitems ▸ hdocument, h⟩
    · cases h

/-- A file that is loaded holds a list whose includes have been followed. -/
theorem followed_of_load {c : Config} {openings : List Opening}
    (h : load tree known path = .ok (c, openings)) :
    ∃ start items opened, tree.locate path = .ok start ∧
      tree.documentAt? start = some (.list items) ∧ openings = ⟨start, 0⟩ :: opened ∧
      Followed tree [start] (FileTree.directoryOf start) (targets .entries items) opened := by
  obtain ⟨start, items, hstart, hdocument, hr⟩ := run_readEntries_of_load h
  obtain ⟨below, rfl, hfollowed⟩ :=
    followed_of_visits ((follows_readEntries true _ 0 items).visits hr)
  exact ⟨start, items, below, hstart, hdocument, rfl, hfollowed⟩

/-- A file that is refused for a cycle holds a list in which an include closes it. -/
theorem closes_of_load {file : Location}
    (h : load tree known path = .error (.includeCycle file)) :
    ∃ start items, tree.locate path = .ok start ∧
      tree.documentAt? start = some (.list items) ∧
      Closes tree file [start] (FileTree.directoryOf start) (targets .entries items) := by
  rw [load, run_readFile] at h
  split at h
  · next e hopen =>
    cases h
    obtain ⟨-, hmem⟩ := Source.openFile_eq_includeCycle hopen
    cases hmem
  · next opened hopen =>
    obtain ⟨start, hstart, -, hdocument, hsource, -⟩ := Source.openFile_eq_ok hopen
    unfold ofDocument at h
    split at h
    · next items hitems =>
      obtain ⟨t, ht, hreports⟩ := (follows_readEntries true _ 0 items).reports h
      have hcloses := closes_of_reports ht hreports
      rw [hsource] at hcloses
      exact ⟨start, items, hstart, hitems ▸ hdocument, hcloses⟩
    · cases h

end Files

end Sluice.Config
