import Mathlib.Data.List.Induction
import Sluice.Proofs.Loading.Basic
import Sluice.Proofs.Loading.Mistakes
import Sluice.Proofs.Loading.Shape

/-!
# Directives in any order

A mapping makes sense as a step if each of its directives does, one of them is a content, and
`register` does not stand beside `pipe`.  This does not depend on the order of the directives, and
neither does the step that is read of such a mapping: it is collected from left to right, but comes
to what the fields say by their names.

* `Directive` : a directive that makes sense on its own;
* `Sensible` : fields that make sense as a step;
* `Control.ofFields`, `contentOf?` : what fields say, by name;
* `Draft.take` : collecting, when the steps under `pipe` are known.
-/

namespace Sluice

/-! ## Directives that make sense -/

/-- Assignments: a mapping, or a list of mappings with a single key. -/
inductive Assignments : Json → Prop
  | map (fields : Fields Json) : Assignments (.map fields)
  | list {items : List Json} (each : ∀ item ∈ items, ∃ entry, item = .map [entry]) :
    Assignments (.list items)

/-- A directive that makes sense on its own. -/
inductive Directive (known : String → Bool) : String → Json → Prop
  | name (s : String) : Directive known "name" (.string s)
  | constant {key : String} (hkey : key = "when" ∨ key = "result") (b : Bool) :
    Directive known key (.bool b)
  | expression {key : String} (hkey : key = "when" ∨ key = "result") (s : String) :
    Directive known key (.string s)
  | register {s : String} (h : s ≠ "") : Directive known "register" (.string s)
  | variable {value : Json} (h : Assignments value) : Directive known "variable" value
  | default {value : Json} (h : DefaultFields value) : Directive known "default" value
  | pipe (value : Json) : Directive known "pipe" value
  | plugin {key : String} (hkey : key ∉ directives) (h : known key = true) (value : Json) :
    Directive known key value

/-- Fields that make sense as a step. -/
structure Sensible (known : String → Bool) (fields : Fields Json) : Prop where
  each : ∀ key value, (key, value) ∈ fields → Directive known key value
  single : ∃ key, contents fields = [key]
  unregistered : ¬ ("register" ∈ fields.keys ∧ "pipe" ∈ fields.keys)

section Directives

variable {known : String → Bool} {key : String} {value : Json}

theorem exists_singleEntries_iff {index : Nat} {items : List Json} :
    (∃ entries, Draft.singleEntries index items = .ok entries) ↔
      ∀ item ∈ items, ∃ entry, item = .map [entry] := by
  induction items generalizing index with
  | nil => simp [Draft.singleEntries]
  | cons item rest ih =>
    rw [List.forall_mem_cons, ← @ih (index + 1)]
    by_cases hitem : ∃ entry, item = .map [entry]
    · obtain ⟨entry, rfl⟩ := hitem
      rw [Draft.singleEntries]
      cases Draft.singleEntries (index + 1) rest <;> simp [bind, Except.bind, pure, Except.pure]
    · refine iff_of_false ?_ fun h => hitem h.1
      rintro ⟨entries, h⟩
      unfold Draft.singleEntries at h
      split at h
      · next heq => cases heq
      · next entry more heq =>
        cases heq
        exact hitem ⟨entry, rfl⟩
      · cases h

theorem exists_assignments_iff :
    (∃ entries, Draft.assignments value = .ok entries) ↔ Assignments value := by
  cases value with
  | list items =>
    rw [Draft.assignments, exists_singleEntries_iff]
    refine ⟨.list, fun h => ?_⟩
    cases h with
    | list each => exact each
  | map fields => exact iff_of_true ⟨fields, rfl⟩ (.map fields)
  | _ => exact iff_of_false (by simp [Draft.assignments]) (by rintro ⟨⟩)

/-- What has no flaw makes sense. -/
theorem Directive.of_flawless (h : ∀ e, ¬ Flaw known key value e) :
    Directive known key value := by
  by_cases hname : key = "name"
  · subst hname
    cases value with
    | string s => exact .name s
    | _ => exact absurd (flaw_name_iff.2 ⟨by simp, rfl⟩) (h _)
  by_cases hcondition : key = "when" ∨ key = "result"
  · cases value with
    | string s => exact .expression hcondition s
    | bool b => exact .constant hcondition b
    | _ => exact absurd ((flaw_condition_iff hcondition).2 ⟨by simp, by simp, rfl⟩) (h _)
  by_cases hregister : key = "register"
  · subst hregister
    cases value with
    | string s => exact .register fun hs => h _ (flaw_register_iff.2 ⟨by simp [hs], rfl⟩)
    | _ => exact absurd (flaw_register_iff.2 ⟨by simp, rfl⟩) (h _)
  by_cases hvariable : key = "variable"
  · subst hvariable
    refine .variable (exists_assignments_iff.1 ?_)
    cases hvalue : Draft.assignments value with
    | error e => exact absurd (flaw_variable_iff.2 hvalue) (h e)
    | ok entries => exact ⟨entries, rfl⟩
  by_cases hdefault : key = "default"
  · subst hdefault
    refine .default (Config.exists_defaultEntries_iff.1 ?_)
    cases hvalue : Draft.defaultEntries value with
    | error e => exact absurd (flaw_default_iff.2 hvalue) (h e)
    | ok entries => exact ⟨entries, rfl⟩
  by_cases hpipe : key = "pipe"
  · subst hpipe
    exact .pipe value
  have hplugin : key ∉ directives := by simp_all [directives, controls]
  cases hknown : known key with
  | true => exact .plugin hplugin hknown value
  | false => exact absurd ((flaw_plugin_iff hplugin).2 ⟨hknown, rfl⟩) (h _)

/-- What makes sense has no flaw. -/
theorem Directive.flawless (h : Directive known key value) (e : StepError) :
    ¬ Flaw known key value e := by
  intro hflaw
  rcases h with s | ⟨hkey, b⟩ | ⟨hkey, s⟩ | hs | hvalue | hvalue | value | ⟨hkey, hknown, value⟩
  · exact (flaw_name_iff.1 hflaw).1 s rfl
  · exact ((flaw_condition_iff hkey).1 hflaw).2.1 b rfl
  · exact ((flaw_condition_iff hkey).1 hflaw).1 s rfl
  · exact hs ((flaw_register_iff.1 hflaw).1 _ rfl)
  · obtain ⟨entries, hentries⟩ := exists_assignments_iff.2 hvalue
    cases hentries.symm.trans (flaw_variable_iff.1 hflaw)
  · obtain ⟨entries, hentries⟩ := Config.exists_defaultEntries_iff.2 hvalue
    cases hentries.symm.trans (flaw_default_iff.1 hflaw)
  · exact not_flaw_pipe hflaw
  · cases hknown.symm.trans ((flaw_plugin_iff hkey).1 hflaw).1

end Directives

/-! ## What fields say by name -/

/-- The control directives among fields. -/
def Control.ofFields (fields : Fields Json) : Control :=
  ⟨(Fields.get? "name" fields).bind Json.string?,
    (Fields.get? "when" fields).bind Condition.ofJson?,
    (Fields.get? "result" fields).bind Condition.ofJson?,
    (Fields.get? "register" fields).bind Json.string?⟩

/-- The content that a directive stands for, if there are some steps under `pipe`. -/
def contentOfDirective (known : String → Bool) (steps : List Step) (key : String) (value : Json) :
    Except StepError Content :=
  if key = "variable" then (Draft.assignments value).map .assign
  else if key = "default" then (Draft.defaultEntries value).map .defaults
  else if key = "pipe" then .ok (.pipe steps)
  else if known key then .ok (.plugin key value)
  else .error (.unknownPredicate key)

/-- The content among fields: that of the first directive that is none of the controls. -/
def contentOf? (known : String → Bool) (steps : List Step) (fields : Fields Json) :
    Option Content := do
  let key ← (contents fields).head?
  let value ← Fields.get? key fields
  (contentOfDirective known steps key value).toOption

section ByName

variable {known : String → Bool} {steps : List Step} {fields fields' : Fields Json} {key : String}
  {value : Json}

theorem contents_perm (h : fields.Perm fields') : (contents fields).Perm (contents fields') :=
  (h.map _).filter _

theorem Control.ofFields_perm (h : fields.Perm fields') (hkeys : fields.keys.Nodup) :
    Control.ofFields fields = Control.ofFields fields' := by
  simp only [ofFields, Fields.get?_perm h hkeys]

theorem contentOf?_perm (h : fields.Perm fields') (hkeys : fields.keys.Nodup)
    (hsingle : ∃ key, contents fields = [key]) :
    contentOf? known steps fields = contentOf? known steps fields' := by
  obtain ⟨key, hkey⟩ := hsingle
  have hkey' : contents fields' = [key] := List.perm_singleton.1 (hkey ▸ (contents_perm h).symm)
  simp only [contentOf?, hkey, hkey', Fields.get?_perm h hkeys]

theorem Sensible.perm (h : Sensible known fields) (hperm : fields.Perm fields') :
    Sensible known fields' where
  each key value hmem := h.each key value (hperm.mem_iff.2 hmem)
  single := by
    obtain ⟨key, hkey⟩ := h.single
    exact ⟨key, List.perm_singleton.1 (hkey ▸ (contents_perm hperm).symm)⟩
  unregistered hboth := h.unregistered
    ⟨(hperm.map _).mem_iff.2 hboth.1, (hperm.map _).mem_iff.2 hboth.2⟩

/-- A directive that makes sense is a control or gives a content of its own kind. -/
theorem Directive.exists_content (h : Directive known key value) (hkey : key ∉ controls) :
    ∃ c, contentOfDirective known steps key value = .ok c ∧ c.kind = key := by
  rcases h with s | ⟨hcondition, b⟩ | ⟨hcondition, s⟩ | hs | hvalue | hvalue | value |
    ⟨hplugin, hknown, value⟩
  · simp [controls] at hkey
  · obtain rfl | rfl := hcondition <;> simp [controls] at hkey
  · obtain rfl | rfl := hcondition <;> simp [controls] at hkey
  · simp [controls] at hkey
  · obtain ⟨entries, hentries⟩ := exists_assignments_iff.2 hvalue
    exact ⟨.assign entries, by simp [contentOfDirective, hentries, Except.map], rfl⟩
  · obtain ⟨entries, hentries⟩ := Config.exists_defaultEntries_iff.2 hvalue
    exact ⟨.defaults entries, by simp [contentOfDirective, hentries, Except.map], rfl⟩
  · exact ⟨.pipe steps, rfl, rfl⟩
  · refine ⟨.plugin key value, ?_, rfl⟩
    simp [directives, controls] at hplugin
    simp [contentOfDirective, hplugin, hknown]

theorem contentOf?_append_of_control (hkey : key ∈ controls) :
    contentOf? known steps (fields ++ [(key, value)]) = contentOf? known steps fields := by
  have hcontents : contents (fields ++ [(key, value)]) = contents fields := by
    rw [contents_append, contents_singleton, if_pos hkey, List.append_nil]
  unfold contentOf?
  rw [hcontents]
  cases hhead : (contents fields).head? with
  | none => rfl
  | some first =>
    have hfirst : first ∈ fields.keys := (List.mem_filter.1 (List.mem_of_mem_head? hhead)).1
    obtain ⟨v, hv⟩ := Option.isSome_iff_exists.1 ((Fields.get?_isSome_iff first fields).2 hfirst)
    simp [Fields.get?_append, hv]

theorem contentOf?_append_of_content (hnone : contents fields = []) (hkey : key ∉ controls)
    (hnew : key ∉ fields.keys) {c : Content}
    (hc : contentOfDirective known steps key value = .ok c) :
    contentOf? known steps (fields ++ [(key, value)]) = some c := by
  have hcontents : contents (fields ++ [(key, value)]) = [key] := by
    rw [contents_append, contents_singleton, if_neg hkey, hnone, List.nil_append]
  simp [contentOf?, hcontents, Fields.get?_append, Fields.get?_eq_none hnew, Fields.get?, hc,
    Except.toOption]

theorem Control.ofFields_append_of_content (hkey : key ∉ controls) :
    Control.ofFields (fields ++ [(key, value)]) = Control.ofFields fields := by
  simp only [controls, List.mem_cons, List.not_mem_nil, or_false, not_or] at hkey
  simp [ofFields, Fields.get?_append, Fields.get?, hkey]

end ByName

/-! ## Collecting -/

namespace Draft

/-- Takes in a directive, if there are some steps under `pipe`. -/
def take (known : String → Bool) (steps : List Step) (d : Draft) (field : String × Json) : Draft :=
  if field.1 = "pipe" then d.fill "pipe" (.ok (.pipe steps)) else d.add known field.1 field.2

variable {known : String → Bool} {steps : List Step} {fields : Fields Json} {d : Draft}
  {key : String} {value : Json}

theorem take_of_not_control (d : Draft) (hkey : key ∉ controls) (value : Json) :
    d.take known steps (key, value) =
      d.fill key (contentOfDirective known steps key value) := by
  simp only [controls, List.mem_cons, List.not_mem_nil, or_false, not_or] at hkey
  obtain ⟨hname, hwhen, hresult, hregister⟩ := hkey
  unfold take contentOfDirective
  by_cases hpipe : key = "pipe"
  · subst hpipe
    rfl
  · simp only [add, hname, hwhen, hresult, hregister, hpipe, if_false]
    split
    · rfl
    · split
      · rfl
      · split <;> rfl

/-- A control that makes sense says the same by its name. -/
theorem take_of_control (hdirective : Directive known key value) (hkey : key ∈ controls)
    (hnew : key ∉ fields.keys) (content : Option Content) (cause : Option StepError) :
    (⟨Control.ofFields fields, content, cause⟩ : Draft).take known steps (key, value) =
      ⟨Control.ofFields (fields ++ [(key, value)]), content, cause⟩ := by
  have hnone := Fields.get?_eq_none hnew
  rcases hdirective with s | ⟨hcondition, b⟩ | ⟨hcondition, s⟩ | hs | hvalue | hvalue | value |
    ⟨hplugin, hknown, value⟩
  case name =>
    simp [take, add, Control.ofFields, Fields.get?_append, Fields.get?, hnone, Json.string?]
  case constant =>
    obtain rfl | rfl := hcondition <;>
      simp [take, add, Control.ofFields, Fields.get?_append, Fields.get?, hnone, Condition.ofJson?]
  case expression =>
    obtain rfl | rfl := hcondition <;>
      simp [take, add, Control.ofFields, Fields.get?_append, Fields.get?, hnone, Condition.ofJson?]
  case register =>
    simp [take, add, Control.ofFields, Fields.get?_append, Fields.get?, hnone, hs, Json.string?]
  case plugin => exact absurd (List.mem_append_left _ hkey) hplugin
  all_goals simp [controls] at hkey

/-- Of directives that make sense and have one content at most, what is collected is what they say
by name. -/
theorem foldl_take (hkeys : fields.keys.Nodup)
    (each : ∀ key value, (key, value) ∈ fields → Directive known key value)
    (hsingle : (contents fields).length ≤ 1) :
    fields.foldl (take known steps) blank =
      ⟨Control.ofFields fields, contentOf? known steps fields, none⟩ := by
  -- the draft grows at the end of the fields, and so does the induction
  induction fields using List.reverseRecOn with
  | nil => rfl
  | append_singleton before field ih =>
    obtain ⟨key, value⟩ := field
    have hdirective : Directive known key value := each key value (by simp)
    rw [keys_append_singleton] at hkeys
    have hnew : key ∉ Fields.keys before := fun hmem =>
      (List.nodup_append.1 hkeys).2.2 key hmem key (List.mem_singleton_self key) rfl
    rw [contents_append, contents_singleton] at hsingle
    rw [List.foldl_append, ih (List.nodup_append.1 hkeys).1
      (fun k v hmem => each k v (List.mem_append_left _ hmem))
      (Nat.le_trans (by simp) hsingle), List.foldl_cons, List.foldl_nil]
    by_cases hkey : key ∈ controls
    · rw [take_of_control hdirective hkey hnew, contentOf?_append_of_control hkey]
    · obtain ⟨c, hc, -⟩ : ∃ c, contentOfDirective known steps key value = .ok c ∧ c.kind = key :=
        hdirective.exists_content hkey
      rw [if_neg hkey] at hsingle
      -- this is a content, and there is one at most
      have hnone : contents before = [] := by
        rw [← List.length_eq_zero_iff]
        simpa using hsingle
      rw [take_of_not_control _ hkey, hc, contentOf?_append_of_content hnone hkey hnew hc,
        Control.ofFields_append_of_content hkey]
      simp [contentOf?, hnone, fill]

/-- Collecting keeps track of what is wrong. -/
theorem tracks_foldl (known : String → Bool) (steps : List Step) (fields : Fields Json) :
    Tracks known fields (fields.foldl (take known steps) blank) := by
  induction fields using List.reverseRecOn with
  | nil => exact .blank
  | append_singleton before field ih =>
    obtain ⟨key, value⟩ := field
    rw [List.foldl_append, List.foldl_cons, List.foldl_nil, take]
    by_cases hkey : key = "pipe"
    · rw [if_pos hkey, hkey]
      exact ih.fill (fun e => not_flaw_pipe) (by simp [controls]) rfl fun _ => ⟨steps, rfl⟩
    · rw [if_neg hkey]
      exact ih.add hkey value

end Draft

/-! ## Mistakes -/

theorem Sensible.clean {known : String → Bool} {fields : Fields Json} (h : Sensible known fields) :
    Clean known fields where
  flawless key value hmem := (h.each key value hmem).flawless
  single := by
    obtain ⟨key, hkey⟩ := h.single
    simp [hkey]

/-- Fields make sense as a step if and only if they have no mistake. -/
theorem sensible_iff_not_mistake {known : String → Bool} {fields : Fields Json} :
    Sensible known fields ↔ ∀ cause, ¬ Mistake known fields cause := by
  constructor
  · rintro h cause (hwrong | ⟨-, hnone⟩ | ⟨-, hpipe, hregister⟩)
    · exact h.clean.not_wrong hwrong
    · obtain ⟨key, hkey⟩ := h.single
      cases hkey.symm.trans hnone
    · exact h.unregistered ⟨hregister, hpipe⟩
  · intro h
    obtain ⟨-, hwrong⟩ | ⟨-, hclean⟩ := Draft.tracks_foldl known [] fields
    · exact absurd (.directive hwrong) (h _)
    · refine ⟨fun key value hmem => Directive.of_flawless (hclean.flawless key value hmem), ?_,
        fun hboth => h _ (.registeredPipe hclean hboth.2 hboth.1)⟩
      match hcontents : contents fields, hclean.single with
      | [], _ => exact absurd (.noContent hclean hcontents) (h _)
      | [key], _ => exact ⟨key, rfl⟩
      | _ :: _ :: _, hsingle => simp at hsingle

/-! ## Reading -/

namespace Config

open Loading

variable {known : String → Bool} {splice : Splice Loading Step} {position : Position}
  {fields fields' : Fields Json} {steps : List Step} {o o' : List Opening}

theorem run_readDirectives_of_no_pipe (h : "pipe" ∉ fields.keys) (steps : List Step) (d : Draft)
    (o : List Opening) :
    (readDirectives known splice position d fields).run o =
      .ok (fields.foldl (Draft.take known steps) d, o) := by
  induction fields generalizing d with
  | nil => rw [readDirectives]; rfl
  | cons field rest ih =>
    obtain ⟨key, value⟩ := field
    rw [Fields.keys, List.map_cons, List.mem_cons, not_or] at h
    have hkey : key ≠ "pipe" := Ne.symm h.1
    rw [readDirectives, if_neg hkey, ih h.2, List.foldl_cons, Draft.take, if_neg hkey]

/-- Reading the directives of a step is collecting them with the steps under `pipe`. -/
theorem run_readDirectives_of_pipe (hkeys : fields.keys.Nodup) {value : Json}
    (hmem : ("pipe", value) ∈ fields)
    (hr : (readPipe known splice (position.field "pipe") value).run o = .ok (steps, o'))
    (d : Draft) :
    (readDirectives known splice position d fields).run o =
      .ok (fields.foldl (Draft.take known steps) d, o') := by
  induction fields generalizing d with
  | nil => cases hmem
  | cons field rest ih =>
    obtain ⟨key, first⟩ := field
    obtain ⟨hnew, hrest⟩ := List.nodup_cons.1 hkeys
    rw [readDirectives, List.foldl_cons, Draft.take]
    by_cases hkey : key = "pipe"
    · subst hkey
      -- there is one field `pipe`, so behind it nothing is read from files any more
      have hfirst : first = value := by
        obtain heq | hlater := List.mem_cons.1 hmem
        · cases heq
          rfl
        · exact absurd (List.mem_map.2 ⟨_, hlater, rfl⟩) hnew
      subst hfirst
      rw [if_pos rfl, if_pos rfl]
      exact run_bind_eq_ok.2 ⟨steps, o', hr, run_readDirectives_of_no_pipe hnew steps _ o'⟩
    · have hlater : ("pipe", value) ∈ rest := by
        obtain heq | hlater := List.mem_cons.1 hmem
        · cases heq
          exact absurd rfl hkey
        · exact hlater
      rw [if_neg hkey, if_neg hkey]
      exact ih hrest hlater _

/-- Where what stands under `pipe` can be read, directives are collected in any order with the same
steps under it. -/
theorem exists_run_readDirectives (hkeys : fields.keys.Nodup)
    (hpipe : ∀ value, ("pipe", value) ∈ fields →
      Succeeds (readPipe known splice (position.field "pipe") value) o) :
    ∃ steps o', ∀ fields', fields.Perm fields' →
      (readDirectives known splice position .blank fields').run o =
        .ok (fields'.foldl (Draft.take known steps) .blank, o') := by
  by_cases hmem : "pipe" ∈ fields.keys
  · obtain ⟨⟨key, value⟩, hfield, hkey⟩ := List.mem_map.1 hmem
    cases hkey
    obtain ⟨⟨steps, o'⟩, hr⟩ := hpipe value hfield
    exact ⟨steps, o', fun fields' hperm => run_readDirectives_of_pipe
      ((hperm.map _).nodup_iff.1 hkeys) (hperm.mem_iff.1 hfield) hr .blank⟩
  · exact ⟨[], o, fun fields' hperm => run_readDirectives_of_no_pipe
      (fun h => hmem ((hperm.map _).mem_iff.2 h)) [] .blank o⟩

theorem run_readStep_of_directives {d : Draft} (hinclude : "include" ∉ fields.keys)
    (hr : (readDirectives known splice position .blank fields).run o = .ok (d, o')) :
    (readStep known splice position (.map fields)).run o = .ok ([d.finish position], o') := by
  rw [readStep, Fields.get?_eq_none hinclude]
  exact run_bind_eq_ok.2 ⟨d, o', hr, rfl⟩

/-- The step that is read of a mapping without an `include`, where what stands under `pipe` can be
read.  It is kept without a mistake if and only if its directives make sense, and then any other
order of the directives gives the same step: it has the controls that stand there by their names,
and the content of the one directive that is none of them.  In any other order directives that do
not make sense are a mistake again. -/
theorem readStep_classifies (known : String → Bool) (splice : Splice Loading Step)
    (position : Position) (fields : Fields Json) (hkeys : fields.keys.Nodup)
    (hinclude : "include" ∉ fields.keys) (o : List Opening)
    (hpipe : ∀ value, ("pipe", value) ∈ fields →
      Succeeds (readPipe known splice (position.field "pipe") value) o) :
    ∃ step o', (readStep known splice position (.map fields)).run o = .ok ([step], o') ∧
      ((∃ control content, step = .valid position control content) ↔ Sensible known fields) ∧
      (∀ control content, step = .valid position control content →
        control = .ofFields fields ∧ contents fields = [content.kind]) ∧
      ∀ fields', fields.Perm fields' →
        (Sensible known fields →
          (readStep known splice position (.map fields')).run o = .ok ([step], o')) ∧
        (¬ Sensible known fields → ∃ cause,
          (readStep known splice position (.map fields')).run o =
            .ok ([.invalid position cause], o')) := by
  obtain ⟨steps, o', hread⟩ := exists_run_readDirectives hkeys hpipe
  have hstep (fields' : Fields Json) (hperm : fields.Perm fields') :=
    run_readStep_of_directives (fun h => hinclude ((hperm.map _).mem_iff.2 h)) (hread fields' hperm)
  -- the draft keeps track of the mistakes in any order, so the verdict is on all fields
  have hcases (fields' : Fields Json) :=
    (Draft.tracks_foldl known steps fields').finish_cases position
  refine ⟨_, o', hstep fields (.refl fields), ?_, ?_,
    fun fields' hperm => ⟨fun h => ?_, fun h => ?_⟩⟩
  · rw [sensible_iff_not_mistake]
    obtain ⟨cause, hinvalid, hmistake⟩ | ⟨hnone, c, -, hvalid, -⟩ := hcases fields
    · refine iff_of_false ?_ fun h => h cause hmistake
      rintro ⟨control, content, hvalid⟩
      cases hinvalid.symm.trans hvalid
    · exact iff_of_true ⟨_, c, hvalid⟩ hnone
  · intro control content hgiven
    obtain ⟨cause, hinvalid, -⟩ | ⟨hnone, c, -, hvalid, hcontents⟩ := hcases fields
    · cases hinvalid.symm.trans hgiven
    · have hsensible := sensible_iff_not_mistake.2 hnone
      cases hvalid.symm.trans hgiven
      rw [Draft.foldl_take hkeys hsensible.each hsensible.clean.single]
      exact ⟨rfl, hcontents⟩
  · have h' := h.perm hperm
    rw [hstep fields' hperm, Draft.foldl_take hkeys h.each h.clean.single,
      Draft.foldl_take ((hperm.map _).nodup_iff.1 hkeys) h'.each h'.clean.single,
      Control.ofFields_perm hperm hkeys, contentOf?_perm hperm hkeys h.single]
  · obtain ⟨cause, hinvalid, -⟩ | ⟨hnone, -⟩ := hcases fields'
    · exact ⟨cause, by rw [hstep fields' hperm, hinvalid]⟩
    · exact absurd ((sensible_iff_not_mistake.2 hnone).perm hperm.symm) h

/-- Where every name is that of a plugin, `name` and `when` are controls all the same, whatever
side of the `pipe` they stand on; a `register` beside them is a mistake in either place. -/
theorem readStep_classifies_around_pipe :
    let known : String → Bool := fun _ => true
    let position : Position := ⟨"api", [.item 0]⟩
    let splice : Splice Loading Step := fun _ _ => pure []
    let read (fields : Fields Json) := (readStep known splice position (.map fields)).run []
    let fields : Fields Json :=
      [("when", .bool true), ("pipe", .list []), ("name", .string "inner")]
    let turned : Fields Json :=
      [("name", .string "inner"), ("pipe", .list []), ("when", .bool true)]
    let registered := ("register", .string "r")
    fields.keys.Nodup ∧ "include" ∉ fields.keys ∧ fields.Perm turned ∧
    (∀ value, ("pipe", value) ∈ fields →
      Succeeds (readPipe known splice (position.field "pipe") value) []) ∧
    Sensible known fields ∧
    read fields =
      .ok ([.valid position ⟨some "inner", some (.constant true), none, none⟩ (.pipe [])], []) ∧
    read turned = read fields ∧
    ¬ Sensible known (registered :: fields) ∧
    ∃ cause, read (turned ++ [registered]) = .ok ([.invalid position cause], []) := by
  intro known position splice read fields turned registered
  have hkeys : fields.keys.Nodup := by decide
  have hinclude : "include" ∉ fields.keys := by decide
  have hperm : fields.Perm turned := (List.reverse_perm fields).symm
  have hpipe (value : Json) (hmem : ("pipe", value) ∈ registered :: fields) :
      Succeeds (readPipe known splice (position.field "pipe") value) [] := by
    obtain rfl : value = .list [] := by simpa [registered, fields] using hmem
    exact ⟨_, rfl⟩
  obtain ⟨step, o', hread, hvalid, -, hturned⟩ := readStep_classifies known splice position
    fields hkeys hinclude [] fun value hmem => hpipe value (List.mem_cons_of_mem _ hmem)
  have hstep : read fields =
      .ok ([.valid position ⟨some "inner", some (.constant true), none, none⟩ (.pipe [])], []) :=
    rfl
  cases hread.symm.trans hstep
  have hsensible : Sensible known fields := hvalid.1 ⟨_, _, rfl⟩
  have hregistered : ¬ Sensible known (registered :: fields) :=
    fun h => h.unregistered ⟨by decide, by decide⟩
  obtain ⟨step', o', hread', -, -, hrefused⟩ := readStep_classifies known splice position
    (registered :: fields) (by decide) (by decide) [] hpipe
  have hlast : (registered :: fields).Perm (turned ++ [registered]) :=
    (hperm.cons registered).trans (List.perm_append_singleton registered turned).symm
  obtain ⟨cause, hcause⟩ := (hrefused _ hlast).2 hregistered
  have hopened : read (registered :: fields) =
      .ok ([.invalid position .registeredPipe], []) := rfl
  cases hread'.symm.trans hopened
  exact ⟨hkeys, hinclude, hperm, fun value hmem => hpipe value (List.mem_cons_of_mem _ hmem),
    hsensible, hstep, ((hturned turned hperm).1 hsensible).trans hstep.symm, hregistered, cause,
    hcause⟩

end Config

end Sluice
