import Sluice.Proofs.Loading.Basic

/-!
# Loading and plugins

Which plugins there are decides what is wrong with a step, and nothing else.  `Config.outline` is
what a configuration is without the contents of its steps; `sameUpTo_ofDocument` says that loading
opens the same files, fails with the same error and gives the same outline whatever plugins there
are, with includes and without.
-/

namespace Sluice

namespace Loading

variable {α β γ δ : Type} {view : α → γ} {view' : β → δ} {x y : Loading α} {f g : α → Loading β}

/-- Two readings that come to the same: they fail with the same error, or they open the same files
and give values that look the same. -/
def SameUpTo (view : α → γ) (x y : Loading α) : Prop :=
  ∀ o, (∃ e, x.run o = .error e ∧ y.run o = .error e) ∨
    ∃ a b o', x.run o = .ok (a, o') ∧ y.run o = .ok (b, o') ∧ view a = view b

namespace SameUpTo

theorem pure {a b : α} (h : view a = view b) : SameUpTo view (Pure.pure a) (Pure.pure b) :=
  fun o => .inr ⟨a, b, o, rfl, rfl, h⟩

theorem refl (view : α → γ) (x : Loading α) : SameUpTo view x x := by
  intro o
  cases hx : x.run o with
  | error e => exact .inl ⟨e, rfl, rfl⟩
  | ok r => exact .inr ⟨r.1, r.1, r.2, rfl, rfl, rfl⟩

theorem bind (h : SameUpTo view x y) (hfg : ∀ a b, view a = view b → SameUpTo view' (f a) (g b)) :
    SameUpTo view' (x >>= f) (y >>= g) := by
  intro o
  obtain ⟨e, hx, hy⟩ | ⟨a, b, o₁, hx, hy, hab⟩ := h o
  · exact .inl ⟨e, run_bind_eq_error.2 (.inl hx), run_bind_eq_error.2 (.inl hy)⟩
  · obtain ⟨e, hf, hg⟩ | ⟨c, d, o₂, hf, hg, hcd⟩ := hfg a b hab o₁
    · exact .inl ⟨e, run_bind_eq_error.2 (.inr ⟨a, o₁, hx, hf⟩),
        run_bind_eq_error.2 (.inr ⟨b, o₁, hy, hg⟩)⟩
    · exact .inr ⟨c, d, o₂, run_bind_eq_ok.2 ⟨a, o₁, hx, hf⟩, run_bind_eq_ok.2 ⟨b, o₁, hy, hg⟩,
        hcd⟩

theorem map {k k' : α → β} (h : SameUpTo view x y)
    (hk : ∀ a b, view a = view b → view' (k a) = view' (k' b)) :
    SameUpTo view' (x >>= fun a => Pure.pure (k a)) (y >>= fun a => Pure.pure (k' a)) :=
  h.bind fun a b hab => pure (hk a b hab)

/-- What follows the same reading. -/
theorem after (x : Loading α) (hfg : ∀ a, SameUpTo view' (f a) (g a)) :
    SameUpTo view' (x >>= f) (x >>= g) := by
  refine (refl id x).bind fun a b hab => ?_
  obtain rfl : a = b := hab
  exact hfg a

end SameUpTo

end Loading

/-- A list of steps without what they do: where each one stands. -/
def positions (steps : List Step) : List Position := steps.map Step.position

theorem positions_append (first rest : List Step) :
    positions (first ++ rest) = positions first ++ positions rest :=
  List.map_append

def Pipe.outline (p : Pipe) :
    Option String × Position × List (String × Fields Json) × List Position :=
  (p.name, p.position, p.defaults, positions p.steps)

theorem Draft.position_finish (d : Draft) (position : Position) :
    (d.finish position).position = position := by
  unfold finish
  split
  · rfl
  · rfl
  · split <;> rfl
  · rfl

namespace Config

open Loading

def outline (c : Config) : Option (List Position) ×
    List (Option String × Position × List (String × Fields Json) × List Position) :=
  (c.init.map positions, c.pipes.map Pipe.outline)

theorem outline_append (a b : Config) : (a.append b).outline =
    (a.outline.1.or b.outline.1, a.outline.2 ++ b.outline.2) := by
  simp only [outline, append, Option.map_or, List.map_append]

def PipeDraft.outline (d : PipeDraft) :
    Option String × List (String × Fields Json) × Option (List Position) :=
  (d.name, d.defaults, d.steps.map positions)

theorem PipeDraft.outline_eq_iff {d d' : PipeDraft} : d.outline = d'.outline ↔
    d.name = d'.name ∧ d.defaults = d'.defaults ∧
      d.steps.map positions = d'.steps.map positions := by
  simp [outline]

/-- Two meanings of every include that come to the same. -/
def SplicesSameUpTo {α γ : Type} (view : List α → γ) (splice splice' : Splice Loading α) : Prop :=
  ∀ target position, SameUpTo view (splice target position) (splice' target position)

variable {known known' : String → Bool} {splice splice' : Splice Loading Step}
  {splicePipes splicePipes' : Splice Loading Pipe}

/-! ## Lists of steps -/

mutual

theorem sameUpTo_readSteps (hs : SplicesSameUpTo positions splice splice')
    (position : Position) (index : Nat) : ∀ items : List Json,
    SameUpTo positions (readSteps known splice position index items)
      (readSteps known' splice' position index items)
  | [] => by
    rw [readSteps, readSteps]
    exact .pure rfl
  | entry :: rest => by
    rw [readSteps, readSteps]
    refine (sameUpTo_readStep hs _ entry).bind fun first first' hfirst => ?_
    refine (sameUpTo_readSteps hs position (index + 1) rest).map fun more more' hmore => ?_
    rw [positions_append, positions_append, hfirst, hmore]

theorem sameUpTo_readStep (hs : SplicesSameUpTo positions splice splice')
    (position : Position) : ∀ entry : Json,
    SameUpTo positions (readStep known splice position entry)
      (readStep known' splice' position entry)
  | .map fields => by
    rw [readStep, readStep]
    cases Fields.get? "include" fields with
    | some target => exact .after _ fun _ => hs target position
    | none =>
      refine (sameUpTo_readDirectives hs position .blank .blank fields).map fun d d' _ => ?_
      simp only [positions, List.map_singleton, Draft.position_finish]
  | .null | .bool _ | .number _ | .string _ | .list _ => by
    simp only [readStep]
    exact .refl _ _

-- The drafts may differ as they like: a step stands where it stands whatever has been found of it.
theorem sameUpTo_readDirectives (hs : SplicesSameUpTo positions splice splice')
    (position : Position) (d d' : Draft) : ∀ fields : List (String × Json),
    SameUpTo (fun _ => ()) (readDirectives known splice position d fields)
      (readDirectives known' splice' position d' fields)
  | [] => by
    rw [readDirectives, readDirectives]
    exact .pure rfl
  | (key, value) :: rest => by
    rw [readDirectives, readDirectives]
    split
    · exact (sameUpTo_readPipe hs _ value).bind fun steps steps' _ =>
        sameUpTo_readDirectives hs position _ _ rest
    · exact sameUpTo_readDirectives hs position _ _ rest

theorem sameUpTo_readPipe (hs : SplicesSameUpTo positions splice splice')
    (position : Position) : ∀ value : Json,
    SameUpTo positions (readPipe known splice position value)
      (readPipe known' splice' position value)
  | .list items => by
    rw [readPipe, readPipe]
    exact sameUpTo_readSteps hs position 0 items
  | .null | .bool _ | .number _ | .string _ | .map _ => by
    simp only [readPipe]
    exact .refl _ _

end

/-! ## Entries -/

section Entries

variable (hs : SplicesSameUpTo positions splice splice')

include hs

theorem sameUpTo_readPipeField (position : Position) {d d' : PipeDraft}
    (hd : d.outline = d'.outline) (key : String) (value : Json) :
    SameUpTo PipeDraft.outline (readPipeField known splice position d key value)
      (readPipeField known' splice' position d' key value) := by
  obtain ⟨hname, hdefaults, hsteps⟩ := PipeDraft.outline_eq_iff.1 hd
  unfold readPipeField
  split
  · split
    · exact .pure (PipeDraft.outline_eq_iff.2 ⟨rfl, hdefaults, hsteps⟩)
    · exact .refl _ _
  · split
    · split
      · exact .pure (PipeDraft.outline_eq_iff.2 ⟨hname, rfl, hsteps⟩)
      · exact .refl _ _
    · split
      · refine (sameUpTo_readPipe hs _ value).map fun steps steps' hpositions => ?_
        exact PipeDraft.outline_eq_iff.2 ⟨hname, hdefaults, congrArg some hpositions⟩
      · exact .refl _ _

theorem sameUpTo_readPipeFields (position : Position) {d d' : PipeDraft}
    (hd : d.outline = d'.outline) (fields : Fields Json) :
    SameUpTo PipeDraft.outline (readPipeFields known splice position d fields)
      (readPipeFields known' splice' position d' fields) := by
  induction fields generalizing d d' with
  | nil => exact .pure hd
  | cons field rest ih =>
    exact (sameUpTo_readPipeField hs position hd field.1 field.2).bind
      fun next next' hnext => ih hnext

theorem sameUpTo_readPipeEntry (position : Position) (fields : Fields Json) :
    SameUpTo Pipe.outline (readPipeEntry known splice position fields)
      (readPipeEntry known' splice' position fields) := by
  refine (sameUpTo_readPipeFields hs position rfl fields).bind fun d d' hd => ?_
  obtain ⟨hname, hdefaults, hsteps⟩ := PipeDraft.outline_eq_iff.1 hd
  cases hd : d.steps with
  | none =>
    cases hd' : d'.steps with
    | none => exact .refl _ _
    | some steps' => simp [hd, hd'] at hsteps
  | some steps =>
    cases hd' : d'.steps with
    | none => simp [hd, hd'] at hsteps
    | some steps' =>
      rw [hd, hd'] at hsteps
      exact .pure (by simp [Pipe.outline, hname, hdefaults, Option.some.inj hsteps])

theorem sameUpTo_readInit (first : Bool) (position : Position) (fields : Fields Json)
    (init : Json) :
    SameUpTo positions (readInit known splice first position fields init)
      (readInit known' splice' first position fields init) := by
  refine .after _ fun _ => ?_
  split
  · exact .refl _ _
  · split
    · exact sameUpTo_readSteps hs _ 0 _
    · exact .refl _ _

variable (hp : SplicesSameUpTo (List.map Pipe.outline) splicePipes splicePipes')

include hp

theorem sameUpTo_readEntry (first : Bool) (position : Position) (entry : Json) :
    SameUpTo outline (readEntry known splice splicePipes first position entry)
      (readEntry known' splice' splicePipes' first position entry) := by
  unfold readEntry
  split
  · next fields =>
    cases Fields.get? "include" fields with
    | some target =>
      refine .after _ fun _ => (hp target position).map fun pipes pipes' hpipes => ?_
      rw [outline, outline, hpipes]
    | none => cases Fields.get? "init" fields with
      | some init =>
        refine (sameUpTo_readInit hs first position fields init).map fun steps steps' hsteps => ?_
        rw [outline, outline, Option.map_some, hsteps, Option.map_some]
      | none =>
        refine (sameUpTo_readPipeEntry hs position fields).map fun p p' hp => ?_
        rw [outline, outline, List.map_singleton, hp, List.map_singleton]
  · exact .refl _ _

theorem sameUpTo_readEntries (mayInit : Bool) (root : Position) (index : Nat)
    (entries : List Json) :
    SameUpTo outline (readEntries known splice splicePipes mayInit root index entries)
      (readEntries known' splice' splicePipes' mayInit root index entries) := by
  induction entries generalizing index with
  | nil => exact .pure rfl
  | cons entry rest ih =>
    refine (sameUpTo_readEntry hs hp _ _ entry).bind fun first first' hfirst => ?_
    refine (ih (index + 1)).map fun more more' hmore => ?_
    rw [outline_append, outline_append, hfirst, hmore]

end Entries

/-! ## Documents -/

theorem sameUpTo_stepsOf (tree : FileTree) (source : Source) (target : Json) (position : Position) :
    SameUpTo positions (stepsOf tree known source target position)
      (stepsOf tree known' source target position) := by
  rw [stepsOf, stepsOf]
  refine .after _ fun i => ?_
  have hfewer := i.fewer
  have hs : SplicesSameUpTo positions (stepsOf tree known i.source)
      (stepsOf tree known' i.source) :=
    fun target position => sameUpTo_stepsOf tree i.source target position
  exact sameUpTo_readSteps hs _ 0 _
termination_by source.unread tree

theorem sameUpTo_pipesOf (tree : FileTree) (source : Source) (target : Json) (position : Position) :
    SameUpTo (List.map Pipe.outline) (pipesOf tree known source target position)
      (pipesOf tree known' source target position) := by
  rw [pipesOf, pipesOf]
  refine .after _ fun i => ?_
  have hfewer := i.fewer
  have hp : SplicesSameUpTo (List.map Pipe.outline) (pipesOf tree known i.source)
      (pipesOf tree known' i.source) :=
    fun target position => sameUpTo_pipesOf tree i.source target position
  refine (sameUpTo_readEntries (sameUpTo_stepsOf tree i.source) hp false _ 0 _).map ?_
  intro c c' hc
  exact congrArg Prod.snd hc
termination_by source.unread tree

/-- Loading comes to the same whatever plugins there are. -/
theorem sameUpTo_ofDocument (tree : FileTree) (source : Source) (document : Json) :
    SameUpTo outline (ofDocument tree known source document)
      (ofDocument tree known' source document) := by
  cases document with
  | list entries =>
    exact sameUpTo_readEntries (sameUpTo_stepsOf tree source) (sameUpTo_pipesOf tree source) true
      _ 0 entries
  | _ => exact .refl _ _

end Config

end Sluice
