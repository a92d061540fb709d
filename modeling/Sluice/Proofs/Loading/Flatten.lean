import Sluice.Proofs.Loading.Targets
import Sluice.Proofs.Loading.Basic
import Sluice.Proofs.Mappings

/-!
# Documents with their includes spliced in

`flatten` replaces every include entry of a document by the entries of the list in the file that it
leads to, and so on in that list, where paths are seen from the directory of that file.  There is no
result if an include does not stand alone, or does not lead to a list in a file that is not being
read.

* `targets_flattenSteps`, `targets_flattenEntries` — what is left has no includes;
* `exists_flattenSteps` — a list of steps whose includes can be resolved has a flattened list.
-/

namespace Sluice.Config

/-- The items that an include is replaced by, given what it points to. -/
abbrev Inline := Json → Option (List Json)

mutual

/-- A list of steps with its includes replaced. -/
def flattenSteps (inline : Inline) : List Json → Option (List Json)
  | [] => some []
  | entry :: rest => do
    let first ← flattenStep inline entry
    return first ++ (← flattenSteps inline rest)

def flattenStep (inline : Inline) : Json → Option (List Json)
  | .map fields => match Fields.get? "include" fields with
    | some target => if fields.length = 1 then inline target else none
    | none => do return [.map (← flattenFields "pipe" inline fields)]
  | entry => some [entry]

def flattenFields (nested : String) (inline : Inline) :
    List (String × Json) → Option (List (String × Json))
  | [] => some []
  | (key, value) :: rest =>
    if key = nested then do
      let first ← flattenNested inline value
      return (key, first) :: (← flattenFields nested inline rest)
    else do
      return (key, value) :: (← flattenFields nested inline rest)

def flattenNested (inline : Inline) : Json → Option Json
  | .list items => do return .list (← flattenSteps inline items)
  | value => some value

end

/-- The entries that an entry of a document is replaced by. -/
def flattenEntry (inlineSteps inlineEntries : Inline) : Json → Option (List Json)
  | .map fields => match Fields.get? "include" fields, Fields.get? "init" fields with
    | some target, _ => if fields.length = 1 then inlineEntries target else none
    | none, some _ => do return [.map (← flattenFields "init" inlineSteps fields)]
    | none, none => do return [.map (← flattenFields "pipe" inlineSteps fields)]
  | entry => some [entry]

/-- The entries of a document with its includes replaced. -/
def flattenEntries (inlineSteps inlineEntries : Inline) : List Json → Option (List Json)
  | [] => some []
  | entry :: rest => do
    let first ← flattenEntry inlineSteps inlineEntries entry
    return first ++ (← flattenEntries inlineSteps inlineEntries rest)

/-- The items that an include is replaced by, when it is seen from a directory while some files are
being read. -/
def inlined (tree : FileTree) (stack : List Location) (directory : String) (reading : Reading)
    (target : Json) : Option (List Json) :=
  match tree.target? directory target with
  | none => none
  | some file =>
    if hfresh : file ∈ stack then none
    else match hdocument : tree.documentAt? file with
      | some (.list items) => match reading with
        | .steps =>
          flattenSteps (inlined tree (file :: stack) (FileTree.directoryOf file) .steps) items
        | .entries =>
          flattenEntries (inlined tree (file :: stack) (FileTree.directoryOf file) .steps)
            (inlined tree (file :: stack) (FileTree.directoryOf file) .entries) items
      | _ => none
termination_by Source.unread tree ⟨"", directory, stack⟩
decreasing_by
  all_goals
    exact Source.unread_cons_lt (s := ⟨"", directory, stack⟩) _ _
      (FileTree.mem_locations_of_documentAt? hdocument) hfresh

/-- A document with its includes replaced, read from a source. -/
def flatten (tree : FileTree) (source : Source) : Json → Option Json
  | .list entries => do
    return .list (← flattenEntries (inlined tree source.stack source.directory .steps)
      (inlined tree source.stack source.directory .entries) entries)
  | document => some document

/-! ## What an include is replaced by -/

section Inlined

variable {tree : FileTree} {stack : List Location} {directory : String} {target : Json}
  {file : Location} {items : List Json}

/-- What the list in a file is replaced by, when the file is included. -/
def inlinedItems (tree : FileTree) (stack : List Location) (file : Location) :
    Reading → List Json → Option (List Json)
  | .steps =>
    flattenSteps (inlined tree (file :: stack) (FileTree.directoryOf file) .steps)
  | .entries =>
    flattenEntries (inlined tree (file :: stack) (FileTree.directoryOf file) .steps)
      (inlined tree (file :: stack) (FileTree.directoryOf file) .entries)

theorem inlined_eq (htarget : tree.target? directory target = some file) (hfresh : file ∉ stack)
    (hdocument : tree.documentAt? file = some (.list items)) (reading : Reading) :
    inlined tree stack directory reading target = inlinedItems tree stack file reading items := by
  rw [inlined]
  split
  · next h =>
    rw [htarget] at h
    cases h
  · next file' h =>
    rw [htarget] at h
    cases h
    rw [dif_neg hfresh]
    split
    · next items' h =>
      rw [hdocument] at h
      cases h
      cases reading <;> rfl
    · next h => exact absurd hdocument (h items)

theorem exists_of_inlined_eq_some {reading : Reading} {flat : List Json}
    (h : inlined tree stack directory reading target = some flat) :
    ∃ file items, tree.target? directory target = some file ∧ file ∉ stack ∧
      tree.documentAt? file = some (.list items) ∧
      inlinedItems tree stack file reading items = some flat := by
  rw [inlined] at h
  split at h
  · cases h
  · next file htarget =>
    split at h
    · cases h
    · next hfresh =>
      split at h
      · next items hdocument =>
        refine ⟨file, items, htarget, hfresh, hdocument, ?_⟩
        cases reading <;> exact h
      · cases h

end Inlined

/-! ## Nothing is left to include -/

section Left

variable {inline : Inline}

theorem flattenSteps_cons_eq_some_iff {entry : Json} {rest flat : List Json} :
    flattenSteps inline (entry :: rest) = some flat ↔
      ∃ first more, flattenStep inline entry = some first ∧
        flattenSteps inline rest = some more ∧ first ++ more = flat := by
  rw [flattenSteps]
  cases flattenStep inline entry <;> cases flattenSteps inline rest <;> simp

theorem flattenFields_cons_eq_some_iff {nested key : String} {value : Json}
    {rest flat : List (String × Json)} :
    flattenFields nested inline ((key, value) :: rest) = some flat ↔
      ∃ value' more,
        (if key = nested then flattenNested inline value else some value) = some value' ∧
        flattenFields nested inline rest = some more ∧ (key, value') :: more = flat := by
  rw [flattenFields]
  by_cases hkey : key = nested
  · rw [if_pos hkey, if_pos hkey]
    cases flattenNested inline value <;> cases flattenFields nested inline rest <;> simp
  · rw [if_neg hkey, if_neg hkey]
    cases flattenFields nested inline rest <;> simp

theorem keys_flattenFields {nested : String} {fields flat : List (String × Json)}
    (h : flattenFields nested inline fields = some flat) :
    Fields.keys flat = Fields.keys fields := by
  induction fields generalizing flat with
  | nil =>
    rw [flattenFields] at h
    cases h
    rfl
  | cons field rest ih =>
    obtain ⟨value', more, -, hmore, rfl⟩ := flattenFields_cons_eq_some_iff.1 h
    exact congrArg (field.1 :: ·) (ih hmore)

theorem get?_flattenFields_eq_none_iff {nested : String} {fields flat : List (String × Json)}
    (h : flattenFields nested inline fields = some flat) (key : String) :
    Fields.get? key flat = none ↔ Fields.get? key fields = none := by
  rw [← Option.not_isSome_iff_eq_none, ← Option.not_isSome_iff_eq_none, Fields.get?_isSome_iff,
    Fields.get?_isSome_iff, keys_flattenFields h]

theorem stepsTargets_append (a b : List Json) :
    stepsTargets (a ++ b) = stepsTargets a ++ stepsTargets b := by
  induction a with
  | nil => rfl
  | cons entry rest ih => rw [List.cons_append, stepsTargets, stepsTargets, ih, List.append_assoc]

theorem directivesTargets_eq_nil_iff {fields : List (String × Json)} :
    directivesTargets fields = [] ↔ ∀ value, ("pipe", value) ∈ fields → pipeTargets value = [] := by
  induction fields with
  | nil => simp [directivesTargets]
  | cons field rest ih =>
    obtain ⟨key, value⟩ := field
    rw [directivesTargets, List.append_eq_nil_iff, ih]
    by_cases hkey : key = "pipe"
    · simp [hkey, forall_eq_or_imp]
    · simp [hkey, Ne.symm hkey]

mutual

theorem targets_flattenSteps
    (hinline : ∀ target flat, inline target = some flat → stepsTargets flat = []) :
    ∀ (items : List Json) {flat : List Json}, flattenSteps inline items = some flat →
      stepsTargets flat = []
  | [], flat, h => by
    rw [flattenSteps] at h
    cases h
    rfl
  | entry :: rest, flat, h => by
    obtain ⟨first, more, hfirst, hmore, rfl⟩ := flattenSteps_cons_eq_some_iff.1 h
    rw [stepsTargets_append, targets_flattenStep hinline entry hfirst,
      targets_flattenSteps hinline rest hmore]
    rfl

theorem targets_flattenStep
    (hinline : ∀ target flat, inline target = some flat → stepsTargets flat = []) :
    ∀ (entry : Json) {flat : List Json}, flattenStep inline entry = some flat →
      stepsTargets flat = []
  | .map fields, flat, h => by
    rw [flattenStep] at h
    cases hinclude : Fields.get? "include" fields with
    | some target =>
      simp only [hinclude] at h
      split at h
      · exact hinline target flat h
      · cases h
    | none =>
      simp only [hinclude, Option.bind_eq_bind, Option.bind_eq_some_iff] at h
      obtain ⟨fields', hfields, h⟩ := h
      cases h
      have hnone := (get?_flattenFields_eq_none_iff hfields "include").2 hinclude
      simp only [stepsTargets, stepTargets, hnone, List.append_nil]
      exact directivesTargets_eq_nil_iff.2 (targets_flattenFields hinline "pipe" fields hfields)
  | .null, flat, h | .bool _, flat, h | .number _, flat, h | .string _, flat, h
  | .list _, flat, h => by
    simp only [flattenStep] at h
    cases h
    simp [stepsTargets, stepTargets]

theorem targets_flattenFields
    (hinline : ∀ target flat, inline target = some flat → stepsTargets flat = [])
    (nested : String) : ∀ (fields : List (String × Json)) {flat : List (String × Json)},
    flattenFields nested inline fields = some flat →
      ∀ value, (nested, value) ∈ flat → pipeTargets value = []
  | [], flat, h => by
    rw [flattenFields] at h
    cases h
    intro value hmem
    cases hmem
  | (key, value) :: rest, flat, h => by
    obtain ⟨value', more, hvalue, hmore, rfl⟩ := flattenFields_cons_eq_some_iff.1 h
    intro v hmem
    obtain heq | hmem := List.mem_cons.1 hmem
    · cases heq
      rw [if_pos rfl] at hvalue
      exact targets_flattenNested hinline value hvalue
    · exact targets_flattenFields hinline nested rest hmore v hmem

theorem targets_flattenNested
    (hinline : ∀ target flat, inline target = some flat → stepsTargets flat = []) :
    ∀ (value : Json) {flat : Json}, flattenNested inline value = some flat → pipeTargets flat = []
  | .list items, flat, h => by
    simp only [flattenNested, Option.bind_eq_bind, Option.bind_eq_some_iff] at h
    obtain ⟨items', hitems, h⟩ := h
    cases h
    rw [pipeTargets]
    exact targets_flattenSteps hinline items hitems
  | .null, flat, h | .bool _, flat, h | .number _, flat, h | .string _, flat, h
  | .map _, flat, h => by
    simp only [flattenNested] at h
    cases h
    simp [pipeTargets]

end

variable {inlineEntries : Inline}

theorem flattenEntries_cons_eq_some_iff {entry : Json} {rest flat : List Json} :
    flattenEntries inline inlineEntries (entry :: rest) = some flat ↔
      ∃ first more, flattenEntry inline inlineEntries entry = some first ∧
        flattenEntries inline inlineEntries rest = some more ∧ first ++ more = flat := by
  rw [flattenEntries]
  cases flattenEntry inline inlineEntries entry <;>
    cases flattenEntries inline inlineEntries rest <;> simp

theorem targets_flattenEntry
    (hinline : ∀ target flat, inline target = some flat → stepsTargets flat = [])
    (hentries : ∀ target flat, inlineEntries target = some flat → targets .entries flat = [])
    {entry : Json} {flat : List Json} (h : flattenEntry inline inlineEntries entry = some flat) :
    targets .entries flat = [] := by
  cases entry with
  | map fields =>
    rw [flattenEntry] at h
    cases hinclude : Fields.get? "include" fields with
    | some target =>
      simp only [hinclude] at h
      split at h
      · exact hentries target flat h
      · cases h
    | none =>
      cases hinit : Fields.get? "init" fields with
      | some init =>
        simp only [hinclude, hinit, Option.bind_eq_bind, Option.bind_eq_some_iff] at h
        obtain ⟨fields', hfields, h⟩ := h
        cases h
        have hnone := (get?_flattenFields_eq_none_iff hfields "include").2 hinclude
        have hnested := targets_flattenFields hinline "init" fields hfields
        -- replacing keeps the keys, so the entry is still read as an `init` block
        have hsome : Fields.get? "init" fields' ≠ none := by
          rw [Ne, get?_flattenFields_eq_none_iff hfields, hinit]
          exact Option.some_ne_none init
        obtain ⟨init', hinit'⟩ := Option.ne_none_iff_exists'.1 hsome
        simp only [targets, List.flatMap_cons, List.flatMap_nil, List.append_nil, entryTargets,
          hnone, hinit']
        exact hnested init' (Fields.mem_of_get?_eq_some hinit')
      | none =>
        simp only [hinclude, hinit, Option.bind_eq_bind, Option.bind_eq_some_iff] at h
        obtain ⟨fields', hfields, h⟩ := h
        cases h
        have hnone := (get?_flattenFields_eq_none_iff hfields "include").2 hinclude
        have hnone' := (get?_flattenFields_eq_none_iff hfields "init").2 hinit
        simp only [targets, List.flatMap_cons, List.flatMap_nil, List.append_nil, entryTargets,
          hnone, hnone']
        exact directivesTargets_eq_nil_iff.2 (targets_flattenFields hinline "pipe" fields hfields)
  | _ =>
    cases h
    rfl

theorem targets_flattenEntries
    (hinline : ∀ target flat, inline target = some flat → stepsTargets flat = [])
    (hentries : ∀ target flat, inlineEntries target = some flat → targets .entries flat = [])
    {entries flat : List Json} (h : flattenEntries inline inlineEntries entries = some flat) :
    targets .entries flat = [] := by
  induction entries generalizing flat with
  | nil =>
    cases h
    rfl
  | cons entry rest ih =>
    obtain ⟨first, more, hfirst, hmore, rfl⟩ := flattenEntries_cons_eq_some_iff.1 h
    have h₁ := targets_flattenEntry hinline hentries hfirst
    have h₂ := ih hmore
    rw [targets] at h₁ h₂ ⊢
    rw [List.flatMap_append, h₁, h₂]
    rfl

/-- What an include is replaced by has no includes.  The files outside of the stack become fewer
from file to file. -/
theorem targets_inlined {tree : FileTree} {stack : List Location} {directory : String}
    {reading : Reading} {target : Json} {flat : List Json}
    (h : inlined tree stack directory reading target = some flat) : targets reading flat = [] := by
  obtain ⟨file, items, -, hfresh, hdocument, hitems⟩ := exists_of_inlined_eq_some h
  have hfewer := Source.unread_cons_lt (s := ⟨"", directory, stack⟩) ""
    (FileTree.directoryOf file) (FileTree.mem_locations_of_documentAt? hdocument) hfresh
  have hsteps : ∀ target flat, inlined tree (file :: stack) (FileTree.directoryOf file) .steps
      target = some flat → stepsTargets flat = [] :=
    fun _ _ h => targets_inlined h
  cases reading with
  | steps => exact targets_flattenSteps hsteps items hitems
  | entries =>
    exact targets_flattenEntries hsteps (fun _ _ h => targets_inlined h) hitems
termination_by Source.unread tree ⟨"", directory, stack⟩

theorem stepsTargets_inlined {tree : FileTree} {stack : List Location} {directory : String}
    (target : Json) (flat : List Json)
    (h : inlined tree stack directory .steps target = some flat) : stepsTargets flat = [] :=
  targets_inlined h

theorem includeFree_of_flatten {tree : FileTree} {source : Source} {document flat : Json}
    (h : flatten tree source document = some flat) : IncludeFree flat := by
  cases document with
  | list entries =>
    simp only [flatten, Option.bind_eq_bind, Option.bind_eq_some_iff] at h
    obtain ⟨entries', hentries, h⟩ := h
    cases h
    exact targets_flattenEntries stepsTargets_inlined (fun _ _ h => targets_inlined h) hentries
  | _ =>
    cases h
    trivial

end Left

/-! ## Lists that can be flattened -/

mutual

/-- Whether every include in a list of steps stands alone. -/
def stepsAlone : List Json → Prop
  | [] => True
  | entry :: rest => stepAlone entry ∧ stepsAlone rest

def stepAlone : Json → Prop
  | .map fields => match Fields.get? "include" fields with
    | some _ => fields.length = 1
    | none => directivesAlone fields
  | _ => True

def directivesAlone : List (String × Json) → Prop
  | [] => True
  | (key, value) :: rest => (key = "pipe" → pipeAlone value) ∧ directivesAlone rest

def pipeAlone : Json → Prop
  | .list items => stepsAlone items
  | _ => True

end

/-- Includes in lists of steps that are well formed, readable and free of cycles, seen from a
directory while some files are being read: each leads to a list in another file, where every include
stands alone and can be resolved too. -/
inductive Resolves (tree : FileTree) : List Location → String → List Target → Prop
  | nil {stack directory} : Resolves tree stack directory []
  | cons {stack directory target file items more}
    (target_eq : tree.target? directory target = some file) (fresh : file ∉ stack)
    (document_eq : tree.documentAt? file = some (.list items)) (alone : stepsAlone items)
    (inside : Resolves tree (file :: stack) (FileTree.directoryOf file) (stepsTargets items))
    (after : Resolves tree stack directory more) :
    Resolves tree stack directory ((.steps, target) :: more)

section Flattened

variable {inline : Inline}

mutual

theorem exists_flattenSteps : ∀ items : List Json, stepsAlone items →
    (∀ t ∈ stepsTargets items, ∃ flat, inline t.2 = some flat) →
      ∃ flat, flattenSteps inline items = some flat
  | [], _, _ => ⟨[], by rw [flattenSteps]⟩
  | entry :: rest, halone, hinline => by
    rw [stepsAlone] at halone
    rw [stepsTargets] at hinline
    obtain ⟨first, hfirst⟩ := exists_flattenStep entry halone.1
      fun t ht => hinline t (List.mem_append_left _ ht)
    obtain ⟨more, hmore⟩ := exists_flattenSteps rest halone.2
      fun t ht => hinline t (List.mem_append_right _ ht)
    exact ⟨_, flattenSteps_cons_eq_some_iff.2 ⟨first, more, hfirst, hmore, rfl⟩⟩

theorem exists_flattenStep : ∀ entry : Json, stepAlone entry →
    (∀ t ∈ stepTargets entry, ∃ flat, inline t.2 = some flat) →
      ∃ flat, flattenStep inline entry = some flat
  | .map fields, halone, hinline => by
    rw [stepAlone] at halone
    rw [stepTargets] at hinline
    rw [flattenStep]
    cases hinclude : Fields.get? "include" fields with
    | some target =>
      simp only [hinclude] at halone hinline
      simp only [if_pos halone]
      exact hinline _ List.mem_cons_self
    | none =>
      simp only [hinclude] at halone hinline
      obtain ⟨flat, hflat⟩ := exists_flattenFields fields halone hinline
      exact ⟨[.map flat], by simp [hflat]⟩
  | .null, _, _ | .bool _, _, _ | .number _, _, _ | .string _, _, _ | .list _, _, _ => by
    exact ⟨_, by rw [flattenStep]; simp⟩

theorem exists_flattenFields : ∀ fields : List (String × Json), directivesAlone fields →
    (∀ t ∈ directivesTargets fields, ∃ flat, inline t.2 = some flat) →
      ∃ flat, flattenFields "pipe" inline fields = some flat
  | [], _, _ => ⟨[], by rw [flattenFields]⟩
  | (key, value) :: rest, halone, hinline => by
    rw [directivesAlone] at halone
    rw [directivesTargets] at hinline
    obtain ⟨more, hmore⟩ := exists_flattenFields rest halone.2
      fun t ht => hinline t (List.mem_append_right _ ht)
    by_cases hkey : key = "pipe"
    · obtain ⟨value', hvalue⟩ := exists_flattenNested value (halone.1 hkey)
        fun t ht => hinline t (List.mem_append_left _ (by rwa [if_pos hkey]))
      exact ⟨_, flattenFields_cons_eq_some_iff.2 ⟨value', more, by rwa [if_pos hkey], hmore, rfl⟩⟩
    · exact ⟨_, flattenFields_cons_eq_some_iff.2 ⟨value, more, if_neg hkey, hmore, rfl⟩⟩

theorem exists_flattenNested : ∀ value : Json, pipeAlone value →
    (∀ t ∈ pipeTargets value, ∃ flat, inline t.2 = some flat) →
      ∃ flat, flattenNested inline value = some flat
  | .list items, halone, hinline => by
    rw [pipeAlone] at halone
    rw [pipeTargets] at hinline
    obtain ⟨flat, hflat⟩ := exists_flattenSteps items halone hinline
    exact ⟨.list flat, by simp [flattenNested, hflat]⟩
  | .null, _, _ | .bool _, _, _ | .number _, _, _ | .string _, _, _ | .map _, _, _ => by
    exact ⟨_, by rw [flattenNested]; simp⟩

end

theorem exists_inlined_of_resolves {tree : FileTree} {stack : List Location} {directory : String}
    {ts : List Target} (h : Resolves tree stack directory ts) :
    ∀ t ∈ ts, ∃ flat, inlined tree stack directory .steps t.2 = some flat := by
  induction h with
  | nil =>
    intro t ht
    cases ht
  | @cons stack directory target file items more target_eq fresh document_eq alone inside after
      ihInside ihAfter =>
    intro t ht
    obtain rfl | ht := List.mem_cons.1 ht
    · rw [inlined_eq target_eq fresh document_eq]
      exact exists_flattenSteps items alone ihInside
    · exact ihAfter t ht

end Flattened

end Sluice.Config
