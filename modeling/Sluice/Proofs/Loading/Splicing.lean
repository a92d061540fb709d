import Sluice.Proofs.Loading.Agreement
import Sluice.Proofs.Loading.Flatten
import Sluice.Proofs.Loading.Includes
import Sluice.Proofs.Loading.Unplaced

/-!
# Includes are spliced in

* `flattens_readSteps` — if a list of steps has no flattened list the reading fails; otherwise
  reading it and reading its flattened list both fail or both give the same steps up to positions;
* `keeps_readEntries` — if the entries of a document are read, so are the flattened entries, to the
  same configuration up to positions.  The converse does not hold: an included file with an `init`
  block is refused, but in the first place of the flattened document the block is in order;
* `load_eq_load_flatten` — the same for whatever is loaded.
-/

namespace Sluice

open Loading

namespace Config

/-! ## Lists of steps -/

/-- Whether a meaning of includes agrees with the reading of what they are replaced by. -/
def InlinesSteps (known : String → Bool) (inline : Inline) (splice splice' : Splice Loading Step) :
    Prop :=
  ∀ target position position' index', Flattens unplacedSteps (inline target)
    (splice target position) (readSteps known splice' position' index')

section Steps

variable (known : String → Bool) {splice splice' : Splice Loading Step} {inline : Inline}

theorem readSteps_append (position : Position) (index : Nat) (a b : List Json) :
    readSteps known splice position index (a ++ b) = (do
      let first ← readSteps known splice position index a
      return first ++ (← readSteps known splice position (index + a.length) b)) := by
  induction a generalizing index with
  | nil => simp [readSteps]
  | cons entry rest ih =>
    have hindex : index + 1 + rest.length = index + (entry :: rest).length := by
      rw [List.length_cons]
      omega
    simp only [List.cons_append, readSteps, ih, hindex, bind_assoc, pure_bind, List.append_assoc]

theorem readSteps_singleton (position : Position) (index : Nat) (entry : Json) :
    readSteps known splice position index [entry] =
      readStep known splice (position.item index) entry := by
  simp [readSteps]

theorem unplacedSteps_append (a b : List Step) :
    unplacedSteps (a ++ b) = unplacedSteps a ++ unplacedSteps b := by
  simp [unplacedSteps_eq_map]

mutual

theorem flattens_readSteps
    (hs : InlinesSteps known inline splice splice')
    (position position' : Position) (index index' : Nat) : ∀ items : List Json,
    Flattens unplacedSteps (flattenSteps inline items) (readSteps known splice position index items)
      (readSteps known splice' position' index')
  | [] => by
    rw [flattenSteps, readSteps]
    simp only [Flattens, readSteps]
    exact agrees_pure rfl
  | entry :: rest => by
    rw [flattenSteps, readSteps]
    refine (flattens_readStep hs (position.item index) position' index' entry).bind
      (fun first a b hab => (flattens_readSteps hs position position' (index + 1)
        (index' + first.length) rest).andThen fun c d hcd => agrees_pure ?_)
      fun first more => readSteps_append known position' index' first more
    rw [unplacedSteps_append, unplacedSteps_append, hab, hcd]

theorem flattens_readStep
    (hs : InlinesSteps known inline splice splice')
    (position position' : Position) (index' : Nat) : ∀ entry : Json,
    Flattens unplacedSteps (flattenStep inline entry) (readStep known splice position entry)
      (readSteps known splice' position' index')
  | .map fields => by
    rw [flattenStep, readStep]
    cases hinclude : Fields.get? "include" fields with
    | some target =>
      simp only []
      unfold alone
      split
      · rw [pure_bind]
        exact hs target position position' index'
      · exact fun o => not_succeeds_bind fun a o₁ hr => by cases hr
    | none =>
      simp only []
      -- beside `include` the only list in a step is the one under `pipe`
      have hstep : Flattens unplacedSteps (flattenFields "pipe" inline fields)
          (do
            let draft ← readDirectives known splice position .blank fields
            return [draft.finish position])
          (fun fields' => do
            let draft ← readDirectives known splice' (position'.item index') .blank fields'
            return [draft.finish (position'.item index')]) :=
        (flattens_readDirectives hs position (position'.item index') .blank .blank rfl
          fields).andThen fun d d' hd => agrees_pure (by
            simp only [unplacedSteps, Draft.unplaced_finish, hd])
      refine hstep.image fun fields' hfields => ?_
      have hinclude' := (get?_flattenFields_eq_none_iff hfields "include").2 hinclude
      rw [readSteps_singleton, readStep, hinclude']
  | .null | .bool _ | .number _ | .string _ | .list _ => by
    simp only [flattenStep, readStep, Flattens, readSteps_singleton]
    exact agrees_refuse _ _ _ _

theorem flattens_readDirectives
    (hs : InlinesSteps known inline splice splice')
    (position position' : Position) (draft draft' : Draft)
    (hdraft : draft.unplaced = draft'.unplaced) : ∀ fields : List (String × Json),
    Flattens Draft.unplaced (flattenFields "pipe" inline fields)
      (readDirectives known splice position draft fields)
      (readDirectives known splice' position' draft')
  | [] => by
    rw [flattenFields, readDirectives]
    simp only [Flattens, readDirectives]
    exact agrees_pure hdraft
  | (key, value) :: rest => by
    rw [flattenFields, readDirectives]
    by_cases hkey : key = "pipe"
    · rw [if_pos hkey, if_pos hkey]
      refine (flattens_readPipe hs (position.field "pipe") (position'.field "pipe") value).bind
        (fun _ a b hab => flattens_readDirectives hs position position' _ _
          (Draft.unplaced_fill_pipe_congr hdraft hab key) rest) fun value' rest' => ?_
      rw [readDirectives, if_pos hkey]
    · rw [if_neg hkey, if_neg hkey]
      refine (flattens_readDirectives hs position position' _ _
        (Draft.unplaced_add_congr hdraft known key value) rest).image fun rest' _ => ?_
      rw [readDirectives, if_neg hkey]

theorem flattens_readPipe
    (hs : InlinesSteps known inline splice splice')
    (position position' : Position) : ∀ value : Json,
    Flattens unplacedSteps (flattenNested inline value) (readPipe known splice position value)
      (readPipe known splice' position')
  | .list items => by
    rw [flattenNested, readPipe]
    exact (flattens_readSteps hs position position' 0 0 items).image
      fun items' _ => by rw [readPipe]
  | .null | .bool _ | .number _ | .string _ | .map _ => by
    simp only [flattenNested, readPipe, Flattens]
    exact agrees_refuse _ _ _ _

end

end Steps

/-! ## Pipes -/

section Pipes

variable (known : String → Bool) {splice splice' : Splice Loading Step} {inline : Inline}
  (hs : InlinesSteps known inline splice splice') (position position' : Position)

include hs

theorem flattens_readPipeField_pipe {draft draft' : PipeDraft}
    (hdraft : draft.unplaced = draft'.unplaced) (value : Json) :
    Flattens PipeDraft.unplaced (flattenNested inline value)
      (readPipeField known splice position draft "pipe" value)
      (readPipeField known splice' position' draft' "pipe") := by
  refine (flattens_readPipe known hs (position.field "pipe") (position'.field "pipe") value).andThen
    fun steps steps' hsteps => agrees_pure ?_
  obtain ⟨hname, hdefaults, -⟩ := PipeDraft.unplaced_eq_iff.1 hdraft
  exact PipeDraft.unplaced_eq_iff.2 ⟨hname, hdefaults, congrArg some hsteps⟩

omit hs in
theorem agrees_readPipeField {draft draft' : PipeDraft}
    (hdraft : draft.unplaced = draft'.unplaced) {key : String} (hkey : key ≠ "pipe")
    (value : Json) :
    Agrees PipeDraft.unplaced (readPipeField known splice position draft key value)
      (readPipeField known splice' position' draft' key value) := by
  obtain ⟨hname, hdefaults, hsteps⟩ := PipeDraft.unplaced_eq_iff.1 hdraft
  unfold readPipeField
  simp only [if_neg hkey]
  split
  · split
    · exact agrees_pure (PipeDraft.unplaced_eq_iff.2 ⟨rfl, hdefaults, hsteps⟩)
    · exact agrees_refuse _ _ _ _
  · split
    · split
      · exact agrees_pure (PipeDraft.unplaced_eq_iff.2 ⟨hname, rfl, hsteps⟩)
      · exact agrees_refuse _ _ _ _
    · exact agrees_refuse _ _ _ _

theorem flattens_readPipeFields {draft draft' : PipeDraft}
    (hdraft : draft.unplaced = draft'.unplaced) (fields : List (String × Json)) :
    Flattens PipeDraft.unplaced (flattenFields "pipe" inline fields)
      (readPipeFields known splice position draft fields)
      (readPipeFields known splice' position' draft') := by
  induction fields generalizing draft draft' with
  | nil =>
    rw [flattenFields]
    exact agrees_pure hdraft
  | cons field rest ih =>
    obtain ⟨key, value⟩ := field
    rw [flattenFields, readPipeFields]
    by_cases hkey : key = "pipe"
    · subst hkey
      rw [if_pos rfl]
      exact (flattens_readPipeField_pipe known hs position position' hdraft value).bind
        (fun _ a b hab => ih hab) fun value' rest' => rfl
    · rw [if_neg hkey]
      exact (Flattens.after (agrees_readPipeField known position position' hdraft hkey value)
        fun _ _ hab => ih hab).image fun rest' _ => rfl

theorem flattens_readPipeEntry (fields : Fields Json) :
    Flattens Pipe.unplaced (flattenFields "pipe" inline fields)
      (readPipeEntry known splice position fields)
      (readPipeEntry known splice' position') := by
  refine (flattens_readPipeFields known hs position position' rfl fields).andThen ?_
  intro draft draft' hdraft
  obtain ⟨hname, hdefaults, hsteps⟩ := PipeDraft.unplaced_eq_iff.1 hdraft
  cases h : draft.steps with
  | none =>
    rw [h, Option.map_none] at hsteps
    rw [Option.map_eq_none_iff.1 hsteps.symm]
    exact agrees_refuse _ _ _ _
  | some steps =>
    rw [h, Option.map_some] at hsteps
    obtain ⟨steps', hsteps', heq⟩ := Option.map_eq_some_iff.1 hsteps.symm
    rw [hsteps']
    refine agrees_pure ?_
    simp only [Pipe.unplaced, hname, hdefaults, heq]

end Pipes

/-! ## Entries of documents -/

section Entries

variable (known : String → Bool) {splice splice' : Splice Loading Step}
  {splicePipes splicePipes' : Splice Loading Pipe} {inline inlineEntries : Inline}

theorem empty_append (c : Config) : empty.append c = c := rfl

theorem append_assoc (a b c : Config) : (a.append b).append c = a.append (b.append c) := by
  simp [append, Option.or_assoc]

theorem append_empty (c : Config) : c.append empty = c := by
  simp [append, empty]

theorem readEntries_append (mayInit : Bool) (root : Position) (index : Nat) (a b : List Json) :
    readEntries known splice splicePipes mayInit root index (a ++ b) = (do
      let first ← readEntries known splice splicePipes mayInit root index a
      return first.append
        (← readEntries known splice splicePipes mayInit root (index + a.length) b)) := by
  induction a generalizing index with
  | nil => simp only [List.nil_append, List.length_nil, Nat.add_zero, readEntries, pure_bind,
      empty_append, bind_pure]
  | cons entry rest ih =>
    have hindex : index + 1 + rest.length = index + (entry :: rest).length := by
      rw [List.length_cons]
      omega
    simp only [List.cons_append, readEntries, ih, hindex, bind_assoc, pure_bind, append_assoc]

theorem readEntries_singleton (mayInit : Bool) (root : Position) (index : Nat) (entry : Json) :
    readEntries known splice splicePipes mayInit root index [entry] =
      readEntry known splice splicePipes (mayInit && index = 0) (root.item index) entry := by
  simp [readEntries, append_empty]

/-- Whether two configurations are the same up to positions. -/
def Alike (c c' : Config) : Prop := c.unplaced = c'.unplaced

/-- Whether a meaning of includes keeps the reading of what they are replaced by. -/
def InlinesEntries (known : String → Bool) (inline : Inline) (splicePipes : Splice Loading Pipe)
    (splice' : Splice Loading Step) (splicePipes' : Splice Loading Pipe) : Prop :=
  ∀ target position mayInit' root' index', Keeps (fun pipes c' => Alike ⟨none, pipes⟩ c')
    (inline target) (splicePipes target position)
    (readEntries known splice' splicePipes' mayInit' root' index')

theorem flattens_readInit (hs : InlinesSteps known inline splice splice')
    (position position' : Position) (init : Json) :
    Flattens unplacedSteps (flattenNested inline init)
      (readInit known splice true position [("init", init)] init)
      (fun init' => readInit known splice' true position' [("init", init')] init') := by
  cases init with
  | list items =>
    rw [flattenNested]
    exact (flattens_readSteps known hs (position.field "init") (position'.field "init") 0 0
      items).image fun items' _ => rfl
  | _ =>
    rw [flattenNested]
    · exact agrees_refuse _ _ _ _
    · simp

/-- An entry that is read is kept where it has been flattened.  An `init` block has to be in the
first place there too. -/
theorem keeps_readEntry (hs : InlinesSteps known inline splice splice')
    (hp : InlinesEntries known inlineEntries splicePipes splice' splicePipes') (first : Bool)
    (position : Position) (mayInit' : Bool) (root' : Position) (index' : Nat)
    (hfirst : first = true → (mayInit' && index' = 0) = true) (entry : Json) :
    Keeps Alike (flattenEntry inline inlineEntries entry)
      (readEntry known splice splicePipes first position entry)
      (readEntries known splice' splicePipes' mayInit' root' index') := by
  cases entry with
  | map fields =>
    rw [flattenEntry, readEntry]
    cases hinclude : Fields.get? "include" fields with
    | some target =>
      simp only []
      unfold alone
      split
      · rw [pure_bind]
        exact (hp target position mayInit' root' index').mapValue fun _ _ h => h
      · refine keeps_of_not_succeeds fun o => not_succeeds_bind fun a o₁ hr => ?_
        cases hr
    | none =>
      cases hinit : Fields.get? "init" fields with
      | some init =>
        simp only []
        by_cases hlength : fields.length = 1
        · cases first with
          -- an `init` block behind the first entry is refused, whatever it holds
          | false =>
            refine keeps_of_not_succeeds fun o => not_succeeds_bind fun a o₁ hr => ?_
            exact absurd hr not_run_readInit_later
          | true =>
            -- beside `init` nothing else stands, so the lists in the entry are those in the block
            obtain rfl := Fields.eq_singleton_of_get? hinit hlength
            have hblock : Flattens unplaced (flattenNested inline init)
                (do return ⟨some (← readInit known splice true position [("init", init)] init), []⟩)
                (fun init' => do
                  return ⟨some (← readInit known splice' true (root'.item index')
                    [("init", init')] init'), []⟩) :=
              (flattens_readInit known hs position (root'.item index') init).andThen
                fun steps steps' hsteps => agrees_pure (by simp [unplaced, hsteps])
            have hentry : Flattens unplaced
                (do return [.map [("init", ← flattenNested inline init)]]) _
                (readEntries known splice' splicePipes' mayInit' root' index') :=
              hblock.image fun init' _ => by
                rw [readEntries_singleton, hfirst rfl]
                rfl
            have hflat :
                (do return [.map (← flattenFields "init" inline [("init", init)])]) =
                  (do return [.map [("init", ← flattenNested inline init)]] :
                    Option (List Json)) := by
              rw [flattenFields, flattenFields, if_pos rfl]
              cases flattenNested inline init <;> rfl
            rw [hflat]
            exact hentry.keeps
        · refine keeps_of_not_succeeds fun o => not_succeeds_bind fun a o₁ hr => ?_
          obtain ⟨_, o₂, halone, -⟩ := run_bind_eq_ok.1 hr
          unfold alone at halone
          rw [if_neg hlength] at halone
          cases halone
      | none =>
        simp only []
        -- without `include` and `init` both sides read a pipe, and replacing adds neither key
        have hpipe : Flattens unplaced (flattenFields "pipe" inline fields)
            (do return ⟨none, [← readPipeEntry known splice position fields]⟩)
            (fun fields' => do
              return ⟨none, [← readPipeEntry known splice' (root'.item index') fields']⟩) :=
          (flattens_readPipeEntry known hs position (root'.item index') fields).andThen
            fun p p' hp => agrees_pure (by simp [unplaced, hp])
        refine Flattens.keeps (hpipe.image fun fields' hfields => ?_)
        have hinclude' := (get?_flattenFields_eq_none_iff hfields "include").2 hinclude
        have hinit' := (get?_flattenFields_eq_none_iff hfields "init").2 hinit
        simp only [readEntries_singleton, readEntry, hinclude', hinit']
  | _ => exact keeps_of_not_succeeds fun o => not_succeeds_refuse _ _ o

theorem keeps_readEntries (hs : InlinesSteps known inline splice splice')
    (hp : InlinesEntries known inlineEntries splicePipes splice' splicePipes')
    (mayInit mayInit' : Bool) (root root' : Position) (index index' : Nat)
    (hfirst : (mayInit && index = 0) = true → (mayInit' && index' = 0) = true)
    (entries : List Json) :
    Keeps Alike (flattenEntries inline inlineEntries entries)
      (readEntries known splice splicePipes mayInit root index entries)
      (readEntries known splice' splicePipes' mayInit' root' index') := by
  induction entries generalizing index index' with
  | nil =>
    intro o c o₁ h
    cases h
    exact ⟨[], rfl, fun o' => ⟨empty, rfl, rfl⟩⟩
  | cons entry rest ih =>
    refine (keeps_readEntry known hs hp _ (root.item index) mayInit' root' index' hfirst
      entry).append (fun first => ih (index + 1) (index' + first.length) (by simp)) ?_
      (readEntries_append known mayInit' root' index')
    intro c c' d d' hc hd
    rw [Alike, unplaced_append, unplaced_append, hc, hd]

end Entries

/-! ## Includes -/

section Files

variable (tree : FileTree) (known : String → Bool) (splice' : Splice Loading Step)
  (splicePipes' : Splice Loading Pipe)

/-- An include either leads to a list in a file that is not being read, or it can be neither
replaced nor followed. -/
theorem follow_cases (source : Source) (target : Json) (position : Position) :
    (∃ (i : source.Included tree) (file : Location),
      (∀ o, (source.follow tree target position).run o =
        .ok (i, o ++ [⟨file, source.stack.length⟩])) ∧
      i.source.stack = file :: source.stack ∧ i.source.directory = FileTree.directoryOf file ∧
      ∀ reading, inlined tree source.stack source.directory reading target =
        inlinedItems tree source.stack file reading i.items) ∨
    (∀ o, ¬ Succeeds (source.follow tree target position) o) ∧
      ∀ reading, inlined tree source.stack source.directory reading target = none := by
  by_cases h : ∃ file items, tree.target? source.directory target = some file ∧
      file ∉ source.stack ∧ tree.documentAt? file = some (.list items)
  · obtain ⟨file, items, htarget, hfresh, hdocument⟩ := h
    obtain ⟨i, rfl, hrun⟩ := exists_run_follow position htarget hfresh hdocument
    obtain ⟨path, file', -, htarget', -, -, hsource, -⟩ := run_follow_eq_ok (hrun [])
    rw [htarget] at htarget'
    cases htarget'
    exact .inl ⟨i, file, hrun, by rw [hsource], by rw [hsource],
      inlined_eq htarget hfresh hdocument⟩
  · refine .inr ⟨fun o ⟨r, hr⟩ => h ?_, fun reading => ?_⟩
    · obtain ⟨path, file, -, htarget, hfresh, hdocument, -⟩ := run_follow_eq_ok hr
      exact ⟨file, r.1.items, htarget, hfresh, hdocument⟩
    · cases hflat : inlined tree source.stack source.directory reading target with
      | none => rfl
      | some flat =>
        obtain ⟨file, items, htarget, hfresh, hdocument, -⟩ := exists_of_inlined_eq_some hflat
        exact absurd ⟨file, items, htarget, hfresh, hdocument⟩ h

/-- An include of steps agrees with the list of steps that it is replaced by.  The files outside of
the stack become fewer from file to file. -/
theorem inlinesSteps_stepsOf (source : Source) :
    InlinesSteps known (inlined tree source.stack source.directory .steps)
      (stepsOf tree known source) splice' := by
  intro target position position' index'
  rw [stepsOf]
  obtain ⟨i, file, hrun, hstack, hdirectory, hinlined⟩ | ⟨hfails, hnone⟩ :=
    follow_cases tree source target position
  · have hfewer := i.fewer
    have hinner := inlinesSteps_stepsOf i.source
    rw [hstack, hdirectory] at hinner
    rw [hinlined]
    exact Flattens.afterRun hrun
      (flattens_readSteps known hinner i.source.root position' 0 index' i.items)
  · rw [hnone]
    exact fun o => not_succeeds_bind fun a o₁ hr => absurd ⟨_, hr⟩ (hfails o)
termination_by source.unread tree

/-- An include of pipes keeps what the entries say that it is replaced by. -/
theorem inlinesEntries_pipesOf (source : Source) :
    InlinesEntries known (inlined tree source.stack source.directory .entries)
      (pipesOf tree known source) splice' splicePipes' := by
  intro target position mayInit' root' index'
  rw [pipesOf]
  obtain ⟨i, file, hrun, hstack, hdirectory, hinlined⟩ | ⟨hfails, hnone⟩ :=
    follow_cases tree source target position
  · have hfewer := i.fewer
    have hsteps := inlinesSteps_stepsOf tree known splice' i.source
    have hpipes := inlinesEntries_pipesOf i.source
    rw [hstack, hdirectory] at hsteps hpipes
    rw [hinlined]
    intro o pipes o₁ hr
    obtain ⟨_, o₂, hfollow, hr⟩ := run_bind_eq_ok.1 hr
    rw [hrun] at hfollow
    cases hfollow
    obtain ⟨c, o₃, hentries, hr⟩ := run_bind_eq_ok.1 hr
    cases hr
    obtain ⟨flat, hflat, hread⟩ := keeps_readEntries known hsteps hpipes false mayInit'
      i.source.root root' 0 index' (by simp) i.items _ _ _ hentries
    -- only pipes are taken over from the file, and an `init` block would not be among them
    have hinit := (noInit_of_run_readEntries hentries).2
    refine ⟨flat, hflat, fun o' => ?_⟩
    obtain ⟨c', hc', halike⟩ := hread o'
    refine ⟨c', hc', ?_⟩
    rw [← hinit]
    exact halike
  · exact keeps_of_not_succeeds fun o => not_succeeds_bind fun a o₁ hr => absurd ⟨_, hr⟩ (hfails o)
termination_by source.unread tree

end Files

/-! ## Documents -/

/-- Whether a document of a source can be flattened to one without includes that loads to the same
configuration up to positions, wherever it is read and without opening a file. -/
def LoadsFlattened (tree : FileTree) (known : String → Bool) (source : Source) (document : Json)
    (c : Config) : Prop :=
  ∃ flat, flatten tree source document = some flat ∧ IncludeFree flat ∧
    ∀ tree' source' o, ∃ c', (ofDocument tree' known source' flat).run o = .ok (c', o) ∧
      c.unplaced = c'.unplaced

theorem loadsFlattened_of_run_ofDocument {tree : FileTree} {known : String → Bool} {source : Source}
    {document : Json} {c : Config} {o o' : List Opening}
    (h : (ofDocument tree known source document).run o = .ok (c, o')) :
    LoadsFlattened tree known source document c := by
  cases document with
  | list entries =>
    have hkeeps := fun tree' source' => keeps_readEntries known
      (inlinesSteps_stepsOf tree known (stepsOf tree' known source') source)
      (inlinesEntries_pipesOf tree known (stepsOf tree' known source')
        (pipesOf tree' known source') source)
      true true source.root source'.root 0 0 id entries
    obtain ⟨flat, hflat, -⟩ := hkeeps tree source o c o' h
    have hflatten : flatten tree source (.list entries) = some (.list flat) := by
      simp [flatten, hflat]
    refine ⟨.list flat, hflatten, includeFree_of_flatten hflatten, fun tree' source' o₁ => ?_⟩
    obtain ⟨flat', hflat', hread⟩ := hkeeps tree' source' o c o' h
    rw [hflat] at hflat'
    cases hflat'
    exact hread o₁
  | _ => cases h

theorem loadsFlattened_of_load {tree : FileTree} {known : String → Bool} {path : String}
    {c : Config} {openings : List Opening} (h : load tree known path = .ok (c, openings)) :
    ∃ start document, tree.locate path = .ok start ∧ tree.documentAt? start = some document ∧
      LoadsFlattened tree known ⟨path, FileTree.directoryOf start, [start]⟩ document c := by
  rw [load, run_readFile] at h
  split at h
  · cases h
  · next opened hopen =>
    obtain ⟨start, hstart, -, hdocument, hsource, -⟩ := Source.openFile_eq_ok hopen
    rw [hsource] at h
    exact ⟨start, opened.document, hstart, hdocument, loadsFlattened_of_run_ofDocument h⟩

/-- Includes are spliced in: whenever a file, a text or a document is loaded, its flattened document
is loaded too, to the same configuration up to positions; and a list of steps whose includes can be
resolved is read if and only if its flattened list is. -/
theorem load_eq_load_flatten (tree : FileTree) (known : String → Bool) :
    (∀ path c openings, load tree known path = .ok (c, openings) →
      ∃ start document, tree.locate path = .ok start ∧ tree.documentAt? start = some document ∧
        LoadsFlattened tree known ⟨path, FileTree.directoryOf start, [start]⟩ document c) ∧
    (∀ name text directory c openings, ofText tree known name text directory = .ok (c, openings) →
      ∃ document, Yaml.read? text.toList = some document ∧
        LoadsFlattened tree known ⟨name, directory, []⟩ document c) ∧
    (∀ source document c o o', (ofDocument tree known source document).run o = .ok (c, o') →
      LoadsFlattened tree known source document c) ∧
    ∀ source items, stepsAlone items →
      Resolves tree source.stack source.directory (stepsTargets items) →
      ∃ flat, flattenSteps (inlined tree source.stack source.directory .steps) items = some flat ∧
        stepsTargets flat = [] ∧
        ∀ tree' source' position position' index index' o o',
          let x := readSteps known (stepsOf tree known source) position index items
          let y := readSteps known (stepsOf tree' known source') position' index' flat
          (Succeeds x o ↔ Succeeds y o') ∧ ∀ steps o₁, x.run o = .ok (steps, o₁) →
            ∃ steps', y.run o' = .ok (steps', o') ∧ unplacedSteps steps = unplacedSteps steps' := by
  refine ⟨fun path c openings => loadsFlattened_of_load, ?_,
    fun source document c o o' => loadsFlattened_of_run_ofDocument, ?_⟩
  · intro name text directory c openings h
    unfold ofText at h
    split at h
    · cases h
    · next document hdocument => exact ⟨document, hdocument, loadsFlattened_of_run_ofDocument h⟩
  · intro source items halone hresolves
    obtain ⟨flat, hflat⟩ := exists_flattenSteps items halone (exists_inlined_of_resolves hresolves)
    refine ⟨flat, hflat, targets_flattenSteps stepsTargets_inlined items hflat, ?_⟩
    intro tree' source' position position' index index' o o' x y
    have hagrees : Flattens unplacedSteps (some flat) x
        (readSteps known (stepsOf tree' known source') position' index') :=
      hflat ▸ flattens_readSteps known
        (inlinesSteps_stepsOf tree known (stepsOf tree' known source') source)
        position position' index index' items
    constructor
    · obtain ⟨hx, hy⟩ | ⟨a, b, o₁, hx, hy, -⟩ := hagrees o o'
      · exact iff_of_false hx hy
      · exact iff_of_true ⟨_, hx⟩ ⟨_, hy⟩
    · intro steps o₁ hx
      -- the replaced list opens no file, so it reads the same whatever has been opened
      obtain ⟨_, hflat', hread⟩ := hagrees.keeps o steps o₁ hx
      cases hflat'
      exact hread o'

/-- An include of a file in another directory, in which an include is seen from there; and a list of
steps that includes an empty list twice. -/
theorem load_eq_load_flatten_directories :
    let tree : FileTree :=
      ⟨[(["main"], "- include: sub/a\n".toUTF8.toList),
        (["sub", "a"], "- pipe:\n  - include: b\n  - include: ../b\n".toUTF8.toList),
        (["sub", "b"], "- typo:\n".toUTF8.toList), (["b"], "[]".toUTF8.toList)], [], "/"⟩
    let known : String → Bool := fun _ => false
    let items : List Json := [.map [("include", .string "b")],
      .map [("pipe", .list [.map [("include", .string "b")]])]]
    (∃ c openings document flat, load tree known "main" = .ok (c, openings) ∧
      tree.documentAt? ["main"] = some document ∧
      flatten tree ⟨"main", "/", [["main"]]⟩ document = some flat ∧
      flat.text = "[\x7b\"pipe\":[\x7b\"typo\":null\x7d]\x7d]" ∧
      ∃ c', (ofDocument tree known ⟨"flat", "", []⟩ flat).run [] = .ok (c', []) ∧
        c.unplaced = c'.unplaced) ∧
    Resolves tree [] "/" (stepsTargets items) ∧
    ∃ flat, flattenSteps (inlined tree [] "/" .steps) items = some flat ∧
      stepsTargets flat = [] := by
  intro tree known items
  obtain ⟨hload, -, -, hsteps⟩ := load_eq_load_flatten tree known
  constructor
  · have hok : (load tree known "main").isOk := by decide +kernel
    have hlocate : (tree.locate "main").toOption = some ["main"] := by decide +kernel
    have htext : ((tree.documentAt? ["main"]).bind (flatten tree ⟨"main", "/", [["main"]]⟩)).map
        Json.text = some "[\x7b\"pipe\":[\x7b\"typo\":null\x7d]\x7d]" := by
      decide +kernel
    cases hrun : load tree known "main" with
    | error e =>
      rw [hrun] at hok
      cases hok
    | ok r =>
      obtain ⟨start, document, hstart, hdocument, flat, hflat, -, hread⟩ := hload _ r.1 r.2 hrun
      rw [hstart] at hlocate
      cases hlocate
      obtain ⟨c', hc', heq⟩ := hread tree ⟨"flat", "", []⟩ []
      have hflat' : flatten tree ⟨"main", "/", [["main"]]⟩ document = some flat := hflat
      rw [hdocument, Option.bind_some, hflat', Option.map_some] at htext
      exact ⟨r.1, r.2, document, flat, rfl, hdocument, hflat', Option.some.inj htext, c', hc', heq⟩
  · have htarget : tree.target? "/" (.string "b") = some ["b"] := by decide +kernel
    have hempty : (tree.documentAt? ["b"]).any (fun d => d.same (.list [])) = true := by
      decide +kernel
    have hdocument : tree.documentAt? ["b"] = some (.list []) := by
      obtain ⟨d, hd, hsame⟩ := (Option.any_eq_true _ _).1 hempty
      rw [hd]
      cases d with
      | list entries => cases entries with
        | nil => rfl
        | cons first rest => simp [Json.same, Json.sameItems] at hsame
      | _ => simp [Json.same] at hsame
    have hresolves : Resolves tree [] "/" (stepsTargets items) :=
      .cons htarget (by simp) hdocument trivial .nil
        (.cons htarget (by simp) hdocument trivial .nil .nil)
    have halone : stepsAlone items := by
      simp [items, stepsAlone, stepAlone, directivesAlone, pipeAlone, Fields.get?]
    obtain ⟨flat, hflat, hfree, -⟩ := hsteps ⟨"b", "/", []⟩ items halone hresolves
    exact ⟨hresolves, flat, hflat, hfree⟩

end Config

end Sluice
