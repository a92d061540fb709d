import Sluice.Proofs.Loading.Basic
import Sluice.Proofs.Loading.Targets
import Sluice.Proofs.Mappings

/-!
# The shape of documents

`DocumentShape` is the grammar of documents without includes: what has to be a list, a mapping or a
text, and which keys may stand where.  It says nothing about plugins, and nothing about the
directives of a step other than `pipe`.  `succeeds_ofDocument_iff` says that a document without
includes is loaded if and only if it has this shape.
-/

namespace Sluice

mutual

/-- A well-formed list of steps: a list of mappings. -/
inductive StepList : Json → Prop
  | list {items : List Json} (entries : ∀ item ∈ items, StepEntry item) : StepList (.list items)

/-- A well-formed entry of a list of steps: whatever it holds under `pipe` is a list of steps. -/
inductive StepEntry : Json → Prop
  | map {fields : Fields Json} (pipes : ∀ value, ("pipe", value) ∈ fields → StepList value) :
    StepEntry (.map fields)

end

theorem stepList_list_iff {items : List Json} :
    StepList (.list items) ↔ ∀ item ∈ items, StepEntry item :=
  ⟨fun | .list entries => entries, .list⟩

theorem stepEntry_map_iff {fields : Fields Json} :
    StepEntry (.map fields) ↔ ∀ value, ("pipe", value) ∈ fields → StepList value :=
  ⟨fun | .map pipes => pipes, .map⟩

/-- A mapping of mappings, where null stands for an empty one. -/
inductive DefaultFields : Json → Prop
  | map {entries : Fields Json}
    (each : ∀ predicate value, (predicate, value) ∈ entries →
      value = .null ∨ ∃ fields, value = .map fields) : DefaultFields (.map entries)

def PipeField (key : String) (value : Json) : Prop :=
  (key = "name" ∧ ∃ s, value = .string s) ∨ (key = "default" ∧ DefaultFields value) ∨
    (key = "pipe" ∧ StepList value)

/-- An entry of a document.  An `init` block stands alone, and only where a first entry stands;
any other entry is a pipe. -/
inductive DocumentEntry (first : Prop) : Json → Prop
  | init {value : Json} (isFirst : first) (steps : StepList value) :
    DocumentEntry first (.map [("init", value)])
  | pipe {fields : Fields Json} (hasPipe : "pipe" ∈ Fields.keys fields)
    (each : ∀ key value, (key, value) ∈ fields → PipeField key value) :
    DocumentEntry first (.map fields)

/-- A document without includes that can be loaded. -/
inductive DocumentShape : Json → Prop
  | list {entries : List Json}
    (each : ∀ index entry, entries[index]? = some entry → DocumentEntry (index = 0) entry) :
    DocumentShape (.list entries)

namespace Config

open Loading

variable {known : String → Bool} {splice : Splice Loading Step} {splicePipes : Splice Loading Pipe}

/-! ## Lists of steps -/

mutual

theorem succeeds_readSteps_iff (position : Position) (index : Nat) : ∀ items : List Json,
    stepsTargets items = [] → ∀ o,
      (Succeeds (readSteps known splice position index items) o ↔ ∀ item ∈ items, StepEntry item)
  | [], _, o => by
    rw [readSteps]
    exact iff_of_true (succeeds_pure _ o) (by simp)
  | entry :: rest, h, o => by
    rw [stepsTargets, List.append_eq_nil_iff] at h
    rw [readSteps, List.forall_mem_cons, ← succeeds_readStep_iff (position.item index) entry h.1 o]
    refine succeeds_bind fun first o₁ => ?_
    rw [succeeds_map, succeeds_readSteps_iff position (index + 1) rest h.2]

theorem succeeds_readStep_iff (position : Position) : ∀ entry : Json, stepTargets entry = [] →
    ∀ o, (Succeeds (readStep known splice position entry) o ↔ StepEntry entry)
  | .map fields, h, o => by
    rw [stepTargets] at h
    rw [readStep, stepEntry_map_iff]
    cases hinclude : Fields.get? "include" fields with
    | some target =>
      rw [hinclude] at h
      cases h
    | none =>
      rw [hinclude] at h
      exact succeeds_map.trans (succeeds_readDirectives_iff position .blank fields h o)
  | .null, _, o | .bool _, _, o | .number _, _, o | .string _, _, o | .list _, _, o => by
    simp only [readStep]
    exact iff_of_false (not_succeeds_refuse _ _ o) (by rintro ⟨⟩)

theorem succeeds_readDirectives_iff (position : Position) (draft : Draft) :
    ∀ fields : List (String × Json), directivesTargets fields = [] → ∀ o,
      (Succeeds (readDirectives known splice position draft fields) o ↔
        ∀ value, ("pipe", value) ∈ fields → StepList value)
  | [], _, o => by
    rw [readDirectives]
    exact iff_of_true (succeeds_pure _ o) (by simp)
  | (key, value) :: rest, h, o => by
    rw [directivesTargets, List.append_eq_nil_iff] at h
    rw [readDirectives]
    by_cases hkey : key = "pipe"
    · subst hkey
      rw [if_pos rfl] at h
      rw [if_pos rfl, succeeds_bind fun steps o₁ =>
        succeeds_readDirectives_iff position _ rest h.2 o₁, succeeds_readPipe_iff _ value h.1]
      simp [forall_eq_or_imp]
    · rw [if_neg hkey, succeeds_readDirectives_iff position _ rest h.2]
      simp [Ne.symm hkey]

theorem succeeds_readPipe_iff (position : Position) : ∀ value : Json, pipeTargets value = [] →
    ∀ o, (Succeeds (readPipe known splice position value) o ↔ StepList value)
  | .list items, h, o => by
    rw [pipeTargets] at h
    rw [readPipe, stepList_list_iff]
    exact succeeds_readSteps_iff position 0 items h o
  | .null, _, o | .bool _, _, o | .number _, _, o | .string _, _, o | .map _, _, o => by
    simp only [readPipe]
    exact iff_of_false (not_succeeds_refuse _ _ o) (by rintro ⟨⟩)

end

/-! ## Pipes -/

theorem exists_fieldsByPredicate_iff {entries : Fields Json} :
    (∃ defaults, Draft.fieldsByPredicate entries = .ok defaults) ↔
      ∀ predicate value, (predicate, value) ∈ entries →
        value = .null ∨ ∃ fields, value = .map fields := by
  induction entries with
  | nil => simp [Draft.fieldsByPredicate]
  | cons entry rest ih =>
    obtain ⟨predicate, value⟩ := entry
    have hsplit : (∀ p v, (p, v) ∈ (predicate, value) :: rest →
        v = .null ∨ ∃ fields, v = .map fields) ↔
        (value = .null ∨ ∃ fields, value = .map fields) ∧
          ∃ defaults, Draft.fieldsByPredicate rest = .ok defaults := by
      rw [ih]
      constructor
      · exact fun h => ⟨h _ _ List.mem_cons_self,
          fun p v hmem => h p v (List.mem_cons_of_mem _ hmem)⟩
      · rintro ⟨hvalue, hrest⟩ p v hmem
        obtain heq | hmem := List.mem_cons.1 hmem
        · cases heq
          exact hvalue
        · exact hrest p v hmem
    rw [hsplit]
    cases value with
    | map fields =>
      cases hrest : Draft.fieldsByPredicate rest <;>
        simp [Draft.fieldsByPredicate, hrest, bind, Except.bind, pure, Except.pure]
    | null =>
      cases hrest : Draft.fieldsByPredicate rest <;>
        simp [Draft.fieldsByPredicate, hrest, bind, Except.bind, pure, Except.pure]
    | _ => simp [Draft.fieldsByPredicate]

theorem exists_defaultEntries_iff {value : Json} :
    (∃ defaults, Draft.defaultEntries value = .ok defaults) ↔ DefaultFields value := by
  cases value with
  | map entries =>
    rw [Draft.defaultEntries, exists_fieldsByPredicate_iff]
    constructor
    · exact .map
    · rintro ⟨each⟩
      exact each
  | _ => exact iff_of_false (by simp [Draft.defaultEntries]) (by rintro ⟨⟩)

theorem succeeds_readPipeField_iff (position : Position) (draft : PipeDraft) (key : String)
    (value : Json) (h : (if key = "pipe" then pipeTargets value else []) = []) (o : List Opening) :
    Succeeds (readPipeField known splice position draft key value) o ↔ PipeField key value := by
  unfold readPipeField PipeField
  by_cases hname : key = "name"
  · subst hname
    simp only [if_pos]
    split
    · exact iff_of_true (succeeds_pure _ o) (by simp)
    · next hvalue => exact iff_of_false (not_succeeds_refuse _ _ o) (by simpa using hvalue)
  · by_cases hdefault : key = "default"
    · subst hdefault
      rw [← exists_defaultEntries_iff]
      simp only [if_neg hname, if_pos]
      split
      · next defaults hdefaults =>
        exact iff_of_true (succeeds_pure _ o) (by simp [hdefaults])
      · next cause hcause =>
        exact iff_of_false (not_succeeds_refuse _ _ o) (by simp [hcause])
    · by_cases hpipe : key = "pipe"
      · subst hpipe
        simp only [if_neg hname, if_neg hdefault, if_pos]
        rw [succeeds_map, succeeds_readPipe_iff _ value (by simpa using h)]
        simp
      · simp only [if_neg hname, if_neg hdefault, if_neg hpipe]
        exact iff_of_false (not_succeeds_refuse _ _ o) (by simp [hname, hdefault, hpipe])

theorem isSome_steps_of_run_readPipeField {position : Position} {draft draft' : PipeDraft}
    {key : String} {value : Json} {o o' : List Opening}
    (h : (readPipeField known splice position draft key value).run o = .ok (draft', o')) :
    draft'.steps.isSome ↔ key = "pipe" ∨ draft.steps.isSome := by
  unfold readPipeField at h
  split at h
  · next hkey =>
    split at h <;> cases h
    simp [hkey]
  · split at h
    · next hkey =>
      split at h <;> cases h
      simp [hkey]
    · split at h
      · next hkey =>
        obtain ⟨steps, o₁, -, h⟩ := run_bind_eq_ok.1 h
        cases h
        simp [hkey]
      · cases h

theorem isSome_steps_of_run_readPipeFields {position : Position} {fields : Fields Json}
    {draft draft' : PipeDraft} {o o' : List Opening}
    (h : (readPipeFields known splice position draft fields).run o = .ok (draft', o')) :
    draft'.steps.isSome ↔ "pipe" ∈ Fields.keys fields ∨ draft.steps.isSome := by
  induction fields generalizing draft o with
  | nil =>
    cases h
    simp [Fields.keys]
  | cons field rest ih =>
    obtain ⟨next, o₁, h₁, h₂⟩ := run_bind_eq_ok.1 h
    rw [ih h₂, isSome_steps_of_run_readPipeField h₁]
    simp only [Fields.keys, List.map_cons, List.mem_cons]
    grind

theorem succeeds_readPipeFields_iff (position : Position) (draft : PipeDraft)
    {fields : Fields Json} (h : directivesTargets fields = []) (o : List Opening) :
    Succeeds (readPipeFields known splice position draft fields) o ↔
      ∀ key value, (key, value) ∈ fields → PipeField key value := by
  induction fields generalizing draft o with
  | nil => exact iff_of_true (succeeds_pure _ o) (by simp)
  | cons field rest ih =>
    obtain ⟨key, value⟩ := field
    rw [directivesTargets, List.append_eq_nil_iff] at h
    rw [readPipeFields, succeeds_bind fun next o₁ => ih next h.2 o₁,
      succeeds_readPipeField_iff position draft key value h.1]
    constructor
    · rintro ⟨hfirst, hrest⟩ k v hmem
      obtain heq | hmem := List.mem_cons.1 hmem
      · cases heq
        exact hfirst
      · exact hrest k v hmem
    · exact fun each => ⟨each key value List.mem_cons_self,
        fun k v hmem => each k v (List.mem_cons_of_mem _ hmem)⟩

theorem succeeds_readPipeEntry_iff (position : Position) {fields : Fields Json}
    (h : directivesTargets fields = []) (o : List Opening) :
    Succeeds (readPipeEntry known splice position fields) o ↔ "pipe" ∈ Fields.keys fields ∧
      ∀ key value, (key, value) ∈ fields → PipeField key value := by
  rw [← succeeds_readPipeFields_iff position ⟨none, [], none⟩ h o]
  constructor
  · rintro ⟨⟨p, o'⟩, hr⟩
    obtain ⟨draft, o₁, h₁, h₂⟩ := run_bind_eq_ok.1 hr
    refine ⟨?_, _, h₁⟩
    have hsome := isSome_steps_of_run_readPipeFields h₁
    cases hsteps : draft.steps with
    | none =>
      rw [hsteps] at h₂
      cases h₂
    | some steps => simpa [hsteps] using hsome
  · rintro ⟨hpipe, ⟨draft, o'⟩, hr⟩
    have hsome := (isSome_steps_of_run_readPipeFields hr).2 (.inl hpipe)
    obtain ⟨steps, hsteps⟩ := Option.isSome_iff_exists.1 hsome
    refine ⟨(⟨draft.name, position, draft.defaults, steps⟩, o'),
      run_bind_eq_ok.2 ⟨draft, o', hr, ?_⟩⟩
    rw [hsteps]
    rfl

/-! ## Entries -/

theorem succeeds_readInit_iff (first : Bool) (position : Position) {fields : Fields Json}
    {init : Json} (hinit : Fields.get? "init" fields = some init) (h : pipeTargets init = [])
    (o : List Opening) :
    Succeeds (readInit known splice first position fields init) o ↔
      fields = [("init", init)] ∧ first = true ∧ StepList init := by
  unfold readInit alone
  by_cases hlength : fields.length = 1
  · have hfields := Fields.eq_singleton_of_get? hinit hlength
    rw [if_pos hlength, pure_bind]
    cases first with
    | false => exact iff_of_false (not_succeeds_refuse _ _ o) (by simp)
    | true =>
      cases init with
      | list items =>
        rw [pipeTargets] at h
        simp only [not_true_eq_false, if_false]
        rw [succeeds_readSteps_iff _ 0 items h, stepList_list_iff]
        simp [hfields]
      | _ => exact iff_of_false (not_succeeds_refuse _ _ o) (by rintro ⟨-, -, ⟨⟩⟩)
  · refine iff_of_false ?_ fun hfields => hlength (by simp [hfields.1])
    rw [if_neg hlength]
    rintro ⟨⟨steps, o'⟩, hr⟩
    obtain ⟨_, o₁, hrefuse, -⟩ := run_bind_eq_ok.1 hr
    cases hrefuse

theorem succeeds_readEntry_iff (first : Bool) (position : Position) {entry : Json}
    (h : entryTargets entry = []) (o : List Opening) :
    Succeeds (readEntry known splice splicePipes first position entry) o ↔
      DocumentEntry (first = true) entry := by
  cases entry with
  | map fields =>
    rw [entryTargets] at h
    rw [readEntry]
    -- there are no includes, so an entry is an `init` block or a pipe
    cases hinclude : Fields.get? "include" fields with
    | some target =>
      rw [hinclude] at h
      cases h
    | none =>
      cases hinit : Fields.get? "init" fields with
      | some init =>
        simp only [hinclude, hinit] at h
        refine succeeds_map.trans ((succeeds_readInit_iff first position hinit h o).trans ?_)
        constructor
        · rintro ⟨rfl, hfirst, hsteps⟩
          exact .init hfirst hsteps
        · rintro (⟨hfirst, hsteps⟩ | ⟨-, each⟩)
          · simp only [Fields.get?, if_pos] at hinit
            cases hinit
            exact ⟨rfl, hfirst, hsteps⟩
          · have hfield := each _ _ (Fields.mem_of_get?_eq_some hinit)
            simp [PipeField] at hfield
      | none =>
        simp only [hinclude, hinit] at h
        refine succeeds_map.trans ((succeeds_readPipeEntry_iff position h o).trans ?_)
        constructor
        · rintro ⟨hpipe, each⟩
          exact .pipe hpipe each
        · rintro (_ | ⟨hpipe, each⟩)
          · simp [Fields.get?] at hinit
          · exact ⟨hpipe, each⟩
  | _ => exact iff_of_false (not_succeeds_refuse _ _ o) (by rintro ⟨⟩)

theorem succeeds_readEntries_iff (mayInit : Bool) (root : Position) (index : Nat)
    {entries : List Json} (h : targets .entries entries = []) (o : List Opening) :
    Succeeds (readEntries known splice splicePipes mayInit root index entries) o ↔
      ∀ i entry, entries[i]? = some entry →
        DocumentEntry ((mayInit && index + i = 0) = true) entry := by
  induction entries generalizing index o with
  | nil => exact iff_of_true (succeeds_pure _ o) (by simp)
  | cons first rest ih =>
    rw [targets, List.flatMap_cons, List.append_eq_nil_iff] at h
    rw [readEntries, succeeds_bind fun c o₁ => succeeds_map.trans (ih (index + 1) h.2 o₁),
      succeeds_readEntry_iff _ _ h.1]
    constructor
    · rintro ⟨hfirst, hrest⟩ i entry hentry
      cases i with
      | zero =>
        cases hentry
        exact hfirst
      | succ i =>
        have hmore := hrest i entry hentry
        rwa [show index + 1 + i = index + (i + 1) by omega] at hmore
    · intro each
      refine ⟨each 0 first rfl, fun i entry hentry => ?_⟩
      have hmore := each (i + 1) entry hentry
      rwa [show index + (i + 1) = index + 1 + i by omega] at hmore

/-- A document without includes is loaded if and only if it has the shape of a document. -/
theorem succeeds_ofDocument_iff (tree : FileTree) (source : Source) {document : Json}
    (h : IncludeFree document) (o : List Opening) :
    Succeeds (ofDocument tree known source document) o ↔ DocumentShape document := by
  cases document with
  | list entries =>
    rw [ofDocument, succeeds_readEntries_iff true source.root 0 h o]
    simp only [Nat.zero_add, Bool.true_and, decide_eq_true_eq]
    constructor
    · exact .list
    · rintro ⟨each⟩
      exact each
  | _ => exact iff_of_false (not_succeeds_refuse _ _ o) (by rintro ⟨⟩)

end Config

end Sluice
