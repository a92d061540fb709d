import Sluice.Proofs.Loading.Includes
import Sluice.Proofs.Loading.Kept
import Sluice.Proofs.Running.Visits

/-!
# What an entry is read as

All that reading an entry can come to, whatever its includes stand for: it is an include, or it
gives one step or pipe of its own, at its own position, with the steps of a list inside of it.

* `Appends` — the files that have been opened before play no part in a reading, which notes its own
  behind them;
* `StepsUnder` — steps that have been read of a list under a key;
* `run_readStep_eq_ok`, `run_readEntry_eq_ok` — what an entry of a list of steps, and of a document,
  has been read as.
-/

namespace Sluice

/-! ## Files that are opened -/

namespace Loading

variable {α β : Type} {x : Loading α} {f : α → Loading β} {o o' : List Opening} {a : α}

/-- Whether a reading goes the same way whatever files have been opened before, and notes the files
that it opens behind them. -/
def Appends (x : Loading α) : Prop := ∀ o, x.run o = (x.run []).map fun r => (r.1, o ++ r.2)

namespace Appends

theorem pure (a : α) : Appends (Pure.pure a) := by
  intro o
  change Except.ok (a, o) = Except.ok (a, o ++ [])
  rw [List.append_nil]

theorem refuse (position : Position) (flaw : DocumentFlaw) :
    Appends (position.refuse flaw : Loading α) := fun _ => rfl

theorem bind (hx : Appends x) (hf : ∀ a, Appends (f a)) : Appends (x >>= f) := by
  intro o
  rw [StateT.run_bind, StateT.run_bind, hx o]
  cases x.run [] with
  | error e => rfl
  | ok r =>
    obtain ⟨a, o₁⟩ := r
    change (f a).run (o ++ o₁) = ((f a).run o₁).map fun r => (r.1, o ++ r.2)
    rw [hf a (o ++ o₁), hf a o₁]
    cases (f a).run [] with
    | error e => rfl
    | ok r => simp [Except.map]

/-- What has been read is read with no files opened before, too. -/
theorem exists_run_nil (h : Appends x) (hr : x.run o = .ok (a, o')) :
    ∃ opened, x.run [] = .ok (a, opened) ∧ o' = o ++ opened := by
  rw [h o] at hr
  cases hx : x.run [] with
  | error e =>
    rw [hx] at hr
    cases hr
  | ok r =>
    rw [hx] at hr
    cases hr
    exact ⟨r.2, rfl, rfl⟩

theorem isPrefix (h : Appends x) (hr : x.run o = .ok (a, o')) : o <+: o' := by
  obtain ⟨opened, -, rfl⟩ := h.exists_run_nil hr
  exact List.prefix_append o opened

end Appends

end Loading

namespace Config

open Loading

/-- A reading that appends, beside any other one: what it reads by an include plays no part. -/
def Appending (α : Type) (_ : List Target) (x _ : Loading α) : Prop := Appends x

theorem carries_appending : Carries Appending where
  pure a := .pure a
  bind first rest := first.bind rest
  refuse _ position flaw := .refuse position flaw

section Appending

variable {tree : FileTree} {known : String → Bool}

theorem appends_follow (source : Source) (target : Json) (position : Position) :
    Appends (source.follow tree target position) := by
  cases target with
  | string path =>
    intro o
    rw [run_follow_string, run_follow_string]
    cases source.openFile tree (FileTree.join source.directory path) with
    | error e => rfl
    | ok opened =>
      obtain ⟨document, source', opening, fewer⟩ := opened
      cases document <;> rfl
  | _ => exact .refuse position .includeNotPath

theorem appending_stepsOf (source : Source) :
    Splices Appending .steps (stepsOf tree known source) (stepsOf tree known source) := by
  intro target position
  rw [stepsOf]
  refine (appends_follow source target position).bind fun i => ?_
  have hfewer := i.fewer
  exact carries_appending.readSteps known (appending_stepsOf i.source) i.source.root 0 i.items
termination_by source.unread tree

theorem appending_pipesOf (source : Source) :
    Splices Appending .entries (pipesOf tree known source) (pipesOf tree known source) := by
  intro target position
  rw [pipesOf]
  refine (appends_follow source target position).bind fun i => ?_
  have hfewer := i.fewer
  exact carries_appending.map (carries_appending.readEntries known (appending_stepsOf i.source)
    (appending_pipesOf i.source) false i.source.root 0 i.items)
termination_by source.unread tree

/-- Reading a list of steps only adds to the files that have been opened. -/
theorem opened_of_run_readSteps {source : Source} {position : Position} {index : Nat}
    {items : List Json} {steps : List Step} {o o' : List Opening}
    (hr : (readSteps known (stepsOf tree known source) position index items).run o =
      .ok (steps, o')) : o <+: o' :=
  (carries_appending.readSteps known (appending_stepsOf source) position index items).isPrefix hr

/-- Reading a document only adds to the files that have been opened. -/
theorem opened_of_run_readEntries {source : Source} {mayInit : Bool} {root : Position}
    {index : Nat} {items : List Json} {c : Config} {o o' : List Opening}
    (hr : (readEntries known (stepsOf tree known source) (pipesOf tree known source) mayInit root
      index items).run o = .ok (c, o')) : o <+: o' :=
  (carries_appending.readEntries known (appending_stepsOf source) (appending_pipesOf source)
    mayInit root index items).isPrefix hr

end Appending

/-! ## Steps -/

section Steps

variable {known : String → Bool} {splice : Splice Loading Step} {position : Position}
  {o o' : List Opening} {steps : List Step}

/-- Whether some steps have been read of a list that some fields have under a key, by the time that
some files had been opened. -/
def StepsUnder (known : String → Bool) (splice : Splice Loading Step) (position : Position)
    (key : String) (fields : Fields Json) (o' : List Opening) (steps : List Step) : Prop :=
  ∃ items o₁ o₂, (key, .list items) ∈ fields ∧
    (readSteps known splice (position.field key) 0 items).run o₁ = .ok (steps, o₂) ∧ o₂ <+: o'

theorem StepsUnder.cons {key : String} {fields : Fields Json}
    (h : StepsUnder known splice position key fields o' steps) (field : String × Json) :
    StepsUnder known splice position key (field :: fields) o' steps := by
  obtain ⟨items, o₁, o₂, hmem, hr, ho⟩ := h
  exact ⟨items, o₁, o₂, List.mem_cons_of_mem field hmem, hr, ho⟩

variable (hs : Splices Appending .steps splice splice)

include hs

/-- Steps that are the content of a step have been there before, or stand under `pipe`. -/
theorem content_of_run_readDirectives {d d' : Draft} {fields : Fields Json}
    (hr : (readDirectives known splice position d fields).run o = .ok (d', o'))
    (h : d'.content = some (.pipe steps)) :
    d.content = some (.pipe steps) ∨
      StepsUnder known splice position "pipe" fields o' steps := by
  induction fields generalizing d o with
  | nil =>
    rw [readDirectives] at hr
    cases hr
    exact .inl h
  | cons field rest ih =>
    obtain ⟨key, value⟩ := field
    rw [readDirectives] at hr
    by_cases hkey : key = "pipe"
    · rw [if_pos hkey] at hr
      obtain ⟨found, o₁, hpipe, hrest⟩ := run_bind_eq_ok.1 hr
      obtain ⟨items, rfl, hfound⟩ := run_readPipe_eq_ok hpipe
      -- the first content stays, so `pipe` counts only if nothing has been there before
      obtain hfill | hlater := ih hrest
      · rw [Draft.content_fill] at hfill
        cases hcontent : d.content with
        | some first =>
          rw [hcontent, Option.some_or] at hfill
          exact .inl hfill
        | none =>
          rw [hcontent, Option.none_or] at hfill
          cases hfill
          have hopened : o₁ <+: o' :=
            (carries_appending.readDirectives known hs position _ rest).isPrefix hrest
          exact .inr ⟨items, o, o₁, by rw [hkey]; exact List.mem_cons_self, hfound, hopened⟩
      · exact .inr (hlater.cons _)
    · rw [if_neg hkey] at hr
      obtain hadd | hlater := ih hr
      · exact .inl (Draft.content_of_content_add hkey hadd)
      · exact .inr (hlater.cons _)

omit hs in
/-- The steps inside a step are the content of what has been collected. -/
theorem inner_finish (d : Draft) (position : Position) :
    (d.finish position).inner = [] ∨ d.content = some (.pipe (d.finish position).inner) := by
  obtain ⟨control, content, cause⟩ := d
  cases cause with
  | some cause => exact .inl rfl
  | none => cases content with
    | none => exact .inl rfl
    | some content => cases content with
      | pipe steps =>
        obtain ⟨name, guard, verdict, register⟩ := control
        cases register with
        | none => exact .inr rfl
        | some register => exact .inl rfl
      | _ => exact .inl rfl

/-- An entry of a list of steps is an include, or a step of its own. -/
theorem run_readStep_eq_ok {entry : Json}
    (hr : (readStep known splice position entry).run o = .ok (steps, o')) :
    ∃ fields, entry = .map fields ∧
      ((∃ target, Fields.get? "include" fields = some target ∧
        (splice target position).run o = .ok (steps, o')) ∨
      (Fields.get? "include" fields = none ∧ ∃ step, steps = [step] ∧ step.position = position ∧
        (step.inner = [] ∨ StepsUnder known splice position "pipe" fields o' step.inner))) := by
  cases entry with
  | map fields =>
    refine ⟨fields, rfl, ?_⟩
    rw [readStep] at hr
    cases hinclude : Fields.get? "include" fields with
    | some target =>
      rw [hinclude] at hr
      obtain ⟨_, o₁, halone, hsplice⟩ := run_bind_eq_ok.1 hr
      unfold alone at halone
      split at halone <;> cases halone
      exact .inl ⟨target, rfl, hsplice⟩
    | none =>
      rw [hinclude] at hr
      obtain ⟨d, o₁, hd, hr₁⟩ := run_bind_eq_ok.1 hr
      cases hr₁
      refine .inr ⟨rfl, _, rfl, d.position_finish position, ?_⟩
      refine (inner_finish d position).imp_right fun hcontent => ?_
      obtain hblank | hunder := content_of_run_readDirectives hs hd hcontent
      · cases hblank
      · exact hunder
  | _ =>
    simp only [readStep] at hr
    cases hr

end Steps

/-! ## Entries of a document -/

section Entries

variable {known : String → Bool} {splice : Splice Loading Step} {splicePipes : Splice Loading Pipe}
  {position : Position} {o o' : List Opening} (hs : Splices Appending .steps splice splice)

include hs

theorem steps_of_run_readPipeFields {draft draft' : PipeDraft} {fields : Fields Json}
    {steps : List Step}
    (hr : (readPipeFields known splice position draft fields).run o = .ok (draft', o'))
    (h : draft'.steps = some steps) :
    draft.steps = some steps ∨ StepsUnder known splice position "pipe" fields o' steps := by
  induction fields generalizing draft o with
  | nil =>
    cases hr
    exact .inl h
  | cons field rest ih =>
    obtain ⟨next, o₁, hfirst, hrest⟩ := run_bind_eq_ok.1 hr
    obtain hnext | hlater := ih hrest
    · obtain hsame | ⟨hkey, items, found, hvalue, hfound, hread⟩ :=
        steps_of_run_readPipeField hfirst
      · exact .inl (hsame ▸ hnext)
      · obtain rfl : found = steps := Option.some.inj (hfound.symm.trans hnext)
        have hopened : o₁ <+: o' :=
          (carries_appending.readPipeFields known hs position next rest).isPrefix hrest
        have hfield : field = ("pipe", .list items) := Prod.ext hkey hvalue
        exact .inr ⟨items, o, o₁, hfield ▸ List.mem_cons_self, hread, hopened⟩
    · exact .inr (hlater.cons field)

theorem run_readPipeEntry_eq_ok {fields : Fields Json} {p : Pipe}
    (hr : (readPipeEntry known splice position fields).run o = .ok (p, o')) :
    p.position = position ∧ StepsUnder known splice position "pipe" fields o' p.steps := by
  obtain ⟨draft, o₁, hfields, hr₁⟩ := run_bind_eq_ok.1 hr
  cases hsteps : draft.steps with
  | none =>
    rw [hsteps] at hr₁
    cases hr₁
  | some steps =>
    rw [hsteps] at hr₁
    cases hr₁
    refine ⟨rfl, ?_⟩
    obtain hnone | hunder := steps_of_run_readPipeFields hs hfields hsteps
    · cases hnone
    · exact hunder

/-- An entry of a document is an include, an `init` block or a pipe of its own. -/
theorem run_readEntry_eq_ok {first : Bool} {entry : Json} {c : Config}
    (hr : (readEntry known splice splicePipes first position entry).run o = .ok (c, o')) :
    ∃ fields, entry = .map fields ∧
      ((∃ target pipes, Fields.get? "include" fields = some target ∧ c = ⟨none, pipes⟩ ∧
        (splicePipes target position).run o = .ok (pipes, o')) ∨
      (∃ items steps, fields = [("init", .list items)] ∧ c = ⟨some steps, []⟩ ∧
        (readSteps known splice (position.field "init") 0 items).run o = .ok (steps, o')) ∨
      (Fields.get? "include" fields = none ∧ Fields.get? "init" fields = none ∧
        ∃ p, c = ⟨none, [p]⟩ ∧ p.position = position ∧
          StepsUnder known splice position "pipe" fields o' p.steps)) := by
  cases entry with
  | map fields =>
    refine ⟨fields, rfl, ?_⟩
    rw [readEntry] at hr
    cases hinclude : Fields.get? "include" fields with
    | some target =>
      simp only [hinclude] at hr
      obtain ⟨_, o₁, halone, hr₁⟩ := run_bind_eq_ok.1 hr
      obtain ⟨pipes, o₂, hsplice, hr₂⟩ := run_bind_eq_ok.1 hr₁
      unfold alone at halone
      -- other keys beside `include` have been refused
      split at halone <;> cases halone
      cases hr₂
      exact .inl ⟨target, pipes, rfl, rfl, hsplice⟩
    | none => cases hinit : Fields.get? "init" fields with
      | some init =>
        simp only [hinclude, hinit] at hr
        obtain ⟨steps, o₁, hsteps, hr₁⟩ := run_bind_eq_ok.1 hr
        cases hr₁
        obtain ⟨items, hfields, -, hread⟩ := run_readInit_eq_ok hinit hsteps
        exact .inr (.inl ⟨items, steps, hfields, rfl, hread⟩)
      | none =>
        simp only [hinclude, hinit] at hr
        obtain ⟨p, o₁, hp, hr₁⟩ := run_bind_eq_ok.1 hr
        cases hr₁
        obtain ⟨hposition, hunder⟩ := run_readPipeEntry_eq_ok hs hp
        exact .inr (.inr ⟨rfl, rfl, p, rfl, hposition, hunder⟩)
  | _ =>
    simp only [readEntry] at hr
    cases hr

end Entries

end Config

end Sluice
