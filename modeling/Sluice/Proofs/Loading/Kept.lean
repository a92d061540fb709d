import Sluice.Proofs.Loading.Basic
import Sluice.Proofs.Loading.Mistakes
import Sluice.Proofs.Loading.Plugins
import Sluice.Proofs.Loading.Shape

/-!
# What is kept of a document

`StepsKept known position index items steps` says what the steps are that a list without includes is
loaded as: every entry gives one step, which is kept with its mistake if there is one, and otherwise
with the content that the entry has; what stands under a `pipe` is kept in the same way.
`DocumentKept` says the same of the steps of a whole document, and `ofDocument_accepts` what loading
makes of a document: which ones are loaded, what is kept of them and what plugins have to do with
it.
-/

namespace Sluice

mutual

/-- The steps that are kept of a list at a position, from an index on. -/
inductive StepsKept (known : String → Bool) : Position → Nat → List Json → List Step → Prop
  | nil {position index} : StepsKept known position index [] []
  | cons {position index entry step entries steps}
    (first : StepKept known (position.item index) entry step)
    (rest : StepsKept known position (index + 1) entries steps) :
    StepsKept known position index (entry :: entries) (step :: steps)

/-- The step that is kept of an entry at a position. -/
inductive StepKept (known : String → Bool) : Position → Json → Step → Prop
  | mistaken {position fields cause} (mistake : Mistake known fields cause) :
    StepKept known position (.map fields) (.invalid position cause)
  | plain {position fields control content} (correct : ∀ cause, ¬ Mistake known fields cause)
    (single : contents fields = [content.kind]) (noPipe : ∀ steps, content ≠ .pipe steps) :
    StepKept known position (.map fields) (.valid position control content)
  | pipe {position fields control items steps} (correct : ∀ cause, ¬ Mistake known fields cause)
    (single : contents fields = ["pipe"]) (under : ("pipe", .list items) ∈ fields)
    (inner : StepsKept known (position.field "pipe") 0 items steps) :
    StepKept known position (.map fields) (.valid position control (.pipe steps))

end

/-- Steps that are kept of what some fields have under `pipe`. -/
def PipeKept (known : String → Bool) (position : Position) (fields : Fields Json)
    (steps : List Step) : Prop :=
  ∃ items, ("pipe", .list items) ∈ fields ∧
    StepsKept known (position.field "pipe") 0 items steps

/-- The part of a configuration that is kept of an entry of a document at a position. -/
inductive EntryKept (known : String → Bool) (position : Position) : Json → Config → Prop
  | init {items steps} (kept : StepsKept known (position.field "init") 0 items steps) :
    EntryKept known position (.map [("init", .list items)]) ⟨some steps, []⟩
  | pipe {fields p} (position_eq : p.position = position)
    (kept : PipeKept known position fields p.steps) :
    EntryKept known position (.map fields) ⟨none, [p]⟩

/-- The configuration that is kept of the entries of a document, from an index on. -/
inductive EntriesKept (known : String → Bool) (root : Position) : Nat → List Json → Config → Prop
  | nil {index} : EntriesKept known root index [] .empty
  | cons {index entry c entries c'} (first : EntryKept known (root.item index) entry c)
    (rest : EntriesKept known root (index + 1) entries c') :
    EntriesKept known root index (entry :: entries) (c.append c')

/-- The configuration that is kept of a document. -/
inductive DocumentKept (known : String → Bool) (root : Position) : Json → Config → Prop
  | list {entries c} (kept : EntriesKept known root 0 entries c) :
    DocumentKept known root (.list entries) c

theorem PipeKept.append {known : String → Bool} {position : Position} {fields : Fields Json}
    {steps : List Step} (h : PipeKept known position fields steps) (more : Fields Json) :
    PipeKept known position (fields ++ more) steps := by
  obtain ⟨items, hmem, hkept⟩ := h
  exact ⟨items, List.mem_append_left more hmem, hkept⟩

namespace Draft

variable {known : String → Bool} {position : Position} {fields : Fields Json} {d : Draft}
  {key : String}

/-- What a step in the making says of the directives that have been collected, and of the steps
under `pipe` if they are its content. -/
structure Collects (known : String → Bool) (position : Position) (fields : Fields Json)
    (d : Draft) : Prop where
  tracks : d.Tracks known fields
  pipe : ∀ steps, d.content = some (.pipe steps) → PipeKept known position fields steps

theorem content_fill (d : Draft) (key : String) (c : Content) :
    (d.fill key (.ok c)).content = d.content.or (some c) := by
  obtain ⟨control, content, cause⟩ := d
  cases content <;> rfl

/-- A directive that is no list of steps does not make steps the content. -/
theorem content_of_content_add (hkey : key ≠ "pipe") {value : Json} {steps : List Step}
    (h : (d.add known key value).content = some (.pipe steps)) :
    d.content = some (.pipe steps) := by
  obtain ⟨e, -, hadd⟩ | ⟨-, ⟨-, control, hadd, -⟩ | ⟨-, c, -, hc, hadd⟩⟩ :=
    add_cases known d hkey value
  · rwa [hadd] at h
  · rwa [hadd] at h
  · rw [hadd, content_fill] at h
    cases hcontent : d.content with
    | some first => rwa [hcontent] at h
    | none =>
      rw [hcontent, Option.none_or] at h
      exact absurd (Option.some.inj h) (hc steps)

namespace Collects

theorem blank : Collects known position [] blank := ⟨.blank, by simp [Draft.blank]⟩

theorem add (h : Collects known position fields d) (hkey : key ≠ "pipe") (value : Json) :
    Collects known position (fields ++ [(key, value)]) (d.add known key value) :=
  ⟨h.tracks.add hkey value, fun steps hsteps =>
    (h.pipe steps (content_of_content_add hkey hsteps)).append _⟩

theorem fillPipe (h : Collects known position fields d) {items : List Json} {steps : List Step}
    (hkept : StepsKept known (position.field "pipe") 0 items steps) :
    Collects known position (fields ++ [("pipe", .list items)])
      (d.fill "pipe" (.ok (.pipe steps))) := by
  refine ⟨h.tracks.fill (fun e => not_flaw_pipe) (by simp [controls]) rfl fun _ => ⟨steps, rfl⟩,
    fun steps' hsteps => ?_⟩
  rw [content_fill] at hsteps
  cases hcontent : d.content with
  | some first =>
    rw [hcontent, Option.some_or] at hsteps
    exact (h.pipe steps' (hcontent.trans hsteps)).append _
  | none =>
    rw [hcontent, Option.none_or] at hsteps
    cases hsteps
    exact ⟨items, by simp, hkept⟩

theorem finish (h : Collects known position fields d) :
    StepKept known position (.map fields) (d.finish position) := by
  obtain ⟨cause, hfinish, hmistake⟩ | ⟨correct, c, hcontent, hfinish, single⟩ :=
    h.tracks.finish_cases position
  · rw [hfinish]
    exact .mistaken hmistake
  · rw [hfinish]
    cases c with
    | pipe steps =>
      obtain ⟨items, under, inner⟩ := h.pipe steps hcontent
      exact .pipe correct single under inner
    | _ => exact .plain correct single (by simp)

end Collects

end Draft

namespace Config

open Loading

variable {known : String → Bool} {splice : Splice Loading Step} {splicePipes : Splice Loading Pipe}
  {o o' : List Opening}

/-! ## Lists of steps -/

mutual

theorem stepsKept_of_run_readSteps {position : Position} {index : Nat} : ∀ {items : List Json}
    {steps : List Step} {o o' : List Opening}, stepsTargets items = [] →
    (readSteps known splice position index items).run o = .ok (steps, o') →
    StepsKept known position index items steps
  | [], steps, o, o', _, hr => by
    rw [readSteps] at hr
    cases hr
    exact .nil
  | entry :: rest, steps, o, o', h, hr => by
    rw [stepsTargets, List.append_eq_nil_iff] at h
    rw [readSteps] at hr
    obtain ⟨first, o₁, hfirst, hr₁⟩ := run_bind_eq_ok.1 hr
    obtain ⟨more, o₂, hmore, hr₂⟩ := run_bind_eq_ok.1 hr₁
    cases hr₂
    obtain ⟨step, rfl, hstep⟩ := stepKept_of_run_readStep h.1 hfirst
    exact .cons hstep (stepsKept_of_run_readSteps h.2 hmore)

theorem stepKept_of_run_readStep {position : Position} : ∀ {entry : Json} {steps : List Step}
    {o o' : List Opening}, stepTargets entry = [] →
    (readStep known splice position entry).run o = .ok (steps, o') →
    ∃ step, steps = [step] ∧ StepKept known position entry step
  | .map fields, steps, o, o', h, hr => by
    rw [stepTargets] at h
    rw [readStep] at hr
    cases hinclude : Fields.get? "include" fields with
    | some target =>
      rw [hinclude] at h
      cases h
    | none =>
      rw [hinclude] at h hr
      obtain ⟨d, o₁, hd, hr₁⟩ := run_bind_eq_ok.1 hr
      cases hr₁
      exact ⟨_, rfl, (collects_of_run_readDirectives h .blank hd).finish⟩
  | .null, _, _, _, _, hr | .bool _, _, _, _, _, hr | .number _, _, _, _, _, hr
  | .string _, _, _, _, _, hr | .list _, _, _, _, _, hr => by
    simp only [readStep] at hr
    cases hr

theorem collects_of_run_readDirectives {position : Position} :
    ∀ {fields before : List (String × Json)} {d d' : Draft} {o o' : List Opening},
    directivesTargets fields = [] → d.Collects known position before →
    (readDirectives known splice position d fields).run o = .ok (d', o') →
    d'.Collects known position (before ++ fields)
  | [], before, d, d', o, o', _, hd, hr => by
    rw [readDirectives] at hr
    cases hr
    rwa [List.append_nil]
  | (key, value) :: rest, before, d, d', o, o', h, hd, hr => by
    rw [directivesTargets, List.append_eq_nil_iff] at h
    rw [readDirectives] at hr
    rw [List.append_cons]
    by_cases hkey : key = "pipe"
    · subst hkey
      rw [if_pos rfl] at h hr
      obtain ⟨steps, o₁, hpipe, hr₁⟩ := run_bind_eq_ok.1 hr
      obtain ⟨items, rfl, hkept⟩ := stepsKept_of_run_readPipe h.1 hpipe
      exact collects_of_run_readDirectives h.2 (hd.fillPipe hkept) hr₁
    · rw [if_neg hkey] at hr
      exact collects_of_run_readDirectives h.2 (hd.add hkey value) hr

theorem stepsKept_of_run_readPipe {position : Position} : ∀ {value : Json} {steps : List Step}
    {o o' : List Opening}, pipeTargets value = [] →
    (readPipe known splice position value).run o = .ok (steps, o') →
    ∃ items, value = .list items ∧ StepsKept known position 0 items steps
  | .list items, steps, o, o', h, hr => by
    rw [pipeTargets] at h
    rw [readPipe] at hr
    exact ⟨items, rfl, stepsKept_of_run_readSteps h hr⟩
  | .null, _, _, _, _, hr | .bool _, _, _, _, _, hr | .number _, _, _, _, _, hr
  | .string _, _, _, _, _, hr | .map _, _, _, _, _, hr => by
    simp only [readPipe] at hr
    cases hr

end

/-! ## Pipes -/

theorem run_readPipe_eq_ok {position : Position} {value : Json} {steps : List Step}
    (hr : (readPipe known splice position value).run o = .ok (steps, o')) :
    ∃ items, value = .list items ∧
      (readSteps known splice position 0 items).run o = .ok (steps, o') := by
  cases value with
  | list items =>
    rw [readPipe] at hr
    exact ⟨items, rfl, hr⟩
  | _ =>
    simp only [readPipe] at hr
    cases hr

theorem steps_of_run_readPipeField {position : Position} {draft draft' : PipeDraft} {key : String}
    {value : Json}
    (hr : (readPipeField known splice position draft key value).run o = .ok (draft', o')) :
    draft'.steps = draft.steps ∨ key = "pipe" ∧ ∃ items steps, value = .list items ∧
      draft'.steps = some steps ∧
      (readSteps known splice (position.field "pipe") 0 items).run o = .ok (steps, o') := by
  unfold readPipeField at hr
  split at hr
  · split at hr <;> cases hr
    exact .inl rfl
  · split at hr
    · split at hr <;> cases hr
      exact .inl rfl
    · split at hr
      · next hkey =>
        obtain ⟨steps, o₁, hpipe, hr₁⟩ := run_bind_eq_ok.1 hr
        cases hr₁
        obtain ⟨items, hvalue, hsteps⟩ := run_readPipe_eq_ok hpipe
        exact .inr ⟨hkey, items, steps, hvalue, rfl, hsteps⟩
      · cases hr

theorem pipeKept_of_run_readPipeFields {position : Position} {before fields : Fields Json}
    {draft draft' : PipeDraft} (h : directivesTargets fields = [])
    (hdraft : ∀ steps, draft.steps = some steps → PipeKept known position before steps)
    (hr : (readPipeFields known splice position draft fields).run o = .ok (draft', o')) :
    ∀ steps, draft'.steps = some steps → PipeKept known position (before ++ fields) steps := by
  induction fields generalizing before draft o with
  | nil =>
    cases hr
    rwa [List.append_nil]
  | cons field rest ih =>
    obtain ⟨key, value⟩ := field
    rw [directivesTargets, List.append_eq_nil_iff] at h
    obtain ⟨next, o₁, hfirst, hrest⟩ := run_bind_eq_ok.1 hr
    rw [List.append_cons]
    refine ih h.2 (fun steps hsteps => ?_) hrest
    obtain hsame | ⟨rfl, items, steps', rfl, hnext, hread⟩ := steps_of_run_readPipeField hfirst
    · exact (hdraft steps (hsame ▸ hsteps)).append _
    · rw [hnext] at hsteps
      cases hsteps
      rw [if_pos rfl, pipeTargets] at h
      exact ⟨items, by simp, stepsKept_of_run_readSteps h.1 hread⟩

theorem pipeKept_of_run_readPipeEntry {position : Position} {fields : Fields Json} {p : Pipe}
    (h : directivesTargets fields = [])
    (hr : (readPipeEntry known splice position fields).run o = .ok (p, o')) :
    p.position = position ∧ PipeKept known position fields p.steps := by
  obtain ⟨draft, o₁, hfields, hr₁⟩ := run_bind_eq_ok.1 hr
  have hnone : ∀ steps, (⟨none, [], none⟩ : PipeDraft).steps = some steps →
      PipeKept known position [] steps := by simp
  have hkept := pipeKept_of_run_readPipeFields h hnone hfields
  cases hsteps : draft.steps with
  | none =>
    rw [hsteps] at hr₁
    cases hr₁
  | some steps =>
    rw [hsteps] at hr₁
    cases hr₁
    exact ⟨rfl, hkept steps hsteps⟩

/-! ## Entries -/

/-- An `init` block is alone in the first entry, and holds a list. -/
theorem run_readInit_eq_ok {first : Bool} {position : Position} {fields : Fields Json}
    {init : Json} {steps : List Step} (hinit : Fields.get? "init" fields = some init)
    (hr : (readInit known splice first position fields init).run o = .ok (steps, o')) :
    ∃ items, fields = [("init", .list items)] ∧ init = .list items ∧
      (readSteps known splice (position.field "init") 0 items).run o = .ok (steps, o') := by
  obtain ⟨⟨⟩, o₁, halone, hr₁⟩ := run_bind_eq_ok.1 hr
  unfold alone at halone
  split at halone
  · next hlength =>
    cases halone
    rw [Fields.eq_singleton_of_get? hinit hlength]
    split at hr₁
    · cases hr₁
    · split at hr₁
      · exact ⟨_, rfl, rfl, hr₁⟩
      · cases hr₁
  · cases halone

theorem entryKept_of_run_readInit {first : Bool} {position : Position} {fields : Fields Json}
    {init : Json} {steps : List Step} (hinit : Fields.get? "init" fields = some init)
    (h : pipeTargets init = [])
    (hr : (readInit known splice first position fields init).run o = .ok (steps, o')) :
    EntryKept known position (.map fields) ⟨some steps, []⟩ := by
  obtain ⟨items, rfl, rfl, hread⟩ := run_readInit_eq_ok hinit hr
  rw [pipeTargets] at h
  exact .init (stepsKept_of_run_readSteps h hread)

theorem entryKept_of_run_readEntry {first : Bool} {position : Position} {entry : Json} {c : Config}
    (h : entryTargets entry = [])
    (hr : (readEntry known splice splicePipes first position entry).run o = .ok (c, o')) :
    EntryKept known position entry c := by
  cases entry with
  | map fields =>
    rw [entryTargets] at h
    rw [readEntry] at hr
    cases hinclude : Fields.get? "include" fields with
    | some target =>
      rw [hinclude] at h
      cases h
    | none =>
      cases hinit : Fields.get? "init" fields with
      | some init =>
        simp only [hinclude, hinit] at h hr
        obtain ⟨steps, o₁, hsteps, hr₁⟩ := run_bind_eq_ok.1 hr
        cases hr₁
        exact entryKept_of_run_readInit hinit h hsteps
      | none =>
        simp only [hinclude, hinit] at h hr
        obtain ⟨p, o₁, hp, hr₁⟩ := run_bind_eq_ok.1 hr
        cases hr₁
        obtain ⟨hposition, hkept⟩ := pipeKept_of_run_readPipeEntry h hp
        exact .pipe hposition hkept
  | _ => cases hr

theorem entriesKept_of_run_readEntries {mayInit : Bool} {root : Position} {index : Nat}
    {entries : List Json} {c : Config} (h : targets .entries entries = [])
    (hr : (readEntries known splice splicePipes mayInit root index entries).run o = .ok (c, o')) :
    EntriesKept known root index entries c := by
  induction entries generalizing index c o with
  | nil =>
    cases hr
    exact .nil
  | cons entry rest ih =>
    rw [targets, List.flatMap_cons, List.append_eq_nil_iff] at h
    obtain ⟨first, o₁, hfirst, hr₁⟩ := run_bind_eq_ok.1 hr
    obtain ⟨more, o₂, hmore, hr₂⟩ := run_bind_eq_ok.1 hr₁
    cases hr₂
    exact .cons (entryKept_of_run_readEntry h.1 hfirst) (ih h.2 hmore)

/-- What a document without includes is loaded as. -/
theorem documentKept_of_run_ofDocument {tree : FileTree} {source : Source} {document : Json}
    {c : Config} (h : IncludeFree document)
    (hr : (ofDocument tree known source document).run o = .ok (c, o')) :
    DocumentKept known source.root document c := by
  cases document with
  | list entries => exact .list (entriesKept_of_run_readEntries h hr)
  | _ => cases hr

/-- Loading accepts the documents that have the shape of a document, and keeps every other mistake
on its step; which plugins there are decides neither whether a document is loaded nor anything but
what its steps do. -/
theorem ofDocument_accepts (tree : FileTree) (source : Source) (document : Json) :
    (∀ known known', SameUpTo outline (ofDocument tree known source document)
      (ofDocument tree known' source document)) ∧
    (IncludeFree document → ∀ known o,
      (Succeeds (ofDocument tree known source document) o ↔ DocumentShape document) ∧
      ∀ c o', (ofDocument tree known source document).run o = .ok (c, o') →
        DocumentKept known source.root document c) := by
  constructor
  · intro known known'
    exact sameUpTo_ofDocument tree source document
  · intro h known o
    refine ⟨succeeds_ofDocument_iff tree source h o, fun c o' hr => ?_⟩
    exact documentKept_of_run_ofDocument h hr

/-- A step with two mistakes is kept with the first one, and the steps under its `pipe` are read all
the same: what is no list there is refused. -/
theorem ofDocument_accepts_mistakes :
    let tree : FileTree := ⟨[], [], "/"⟩
    let source : Source := ⟨"api", "", []⟩
    let known : String → Bool := fun _ => false
    let document (value : Json) : Json := .list [.map [("pipe", .list
      [.map [("when", .null), ("pipe", value), ("log", .null)]])]]
    let kept := document (.list [.map []])
    let refused := document .null
    (IncludeFree kept ∧ DocumentShape kept ∧
      ∃ c, (ofDocument tree known source kept).run [] = .ok (c, []) ∧
        DocumentKept known source.root kept c ∧
        ∃ position, c.pipes.flatMap Pipe.steps =
          [.invalid position (.malformed "when" .notCondition)]) ∧
    IncludeFree refused ∧ ¬ DocumentShape refused := by
  intro tree source known document kept refused
  have hkept : IncludeFree kept := rfl
  have hrefused : IncludeFree refused := rfl
  obtain ⟨-, haccepts⟩ := ofDocument_accepts tree source kept
  obtain ⟨hshape, hsteps⟩ := haccepts hkept known []
  let step : Step :=
    .invalid ⟨"api", [.item 0, .field "pipe", .item 0]⟩ (.malformed "when" .notCondition)
  have hrun : (ofDocument tree known source kept).run [] =
      .ok (⟨none, [⟨none, ⟨"api", [.item 0]⟩, [], [step]⟩]⟩, []) := rfl
  refine ⟨⟨hkept, hshape.1 ⟨_, hrun⟩, _, hrun, hsteps _ _ hrun, _, rfl⟩, hrefused, ?_⟩
  rw [← ((ofDocument_accepts tree source refused).2 hrefused known []).1]
  rintro ⟨r, hr⟩
  cases hr

end Config

end Sluice
