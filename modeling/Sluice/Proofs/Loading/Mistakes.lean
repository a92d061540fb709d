import Sluice.Config.Draft
import Sluice.Proofs.Mappings

/-!
# Mistakes in steps

`Mistake known fields cause` says what is wrong with a step, and that it is the first thing that is:
a directive with a flaw of its own or a second content, or, if there is none, a step without a
content or a `register` on a `pipe`.  `Draft.Tracks` is what collecting the directives one by one
keeps true (`Draft.Tracks.add`, `Draft.Tracks.fill`), and `Draft.Tracks.finish_cases` reads off the
step: it is kept as wrong with its mistake, or it has none.
-/

namespace Sluice

/-- The directives that control a step and are no content. -/
def controls : List String := ["name", "when", "result", "register"]

/-- The directives that do not depend on the plugins there are. -/
def directives : List String := controls ++ ["variable", "default", "pipe"]

/-- What is wrong with a directive on its own. -/
inductive Flaw (known : String → Bool) (key : String) : Json → StepError → Prop
  | name {value} (hkey : key = "name") (h : ∀ s, value ≠ .string s) :
    Flaw known key value (.malformed key .notString)
  | condition {value} (hkey : key = "when" ∨ key = "result") (hs : ∀ s, value ≠ .string s)
    (hb : ∀ b, value ≠ .bool b) : Flaw known key value (.malformed key .notCondition)
  | label {value} (hkey : key = "register") (h : ∀ s, value = .string s → s = "") :
    Flaw known key value (.malformed key .notLabel)
  | assignments {value} (hkey : key = "variable") (hl : ∀ items, value ≠ .list items)
    (hm : ∀ fields, value ≠ .map fields) : Flaw known key value (.malformed key .notAssignments)
  | assignment {before item after} (hkey : key = "variable")
    (hbefore : ∀ b ∈ before, ∃ entry, b = .map [entry]) (h : ¬ ∃ entry, item = .map [entry]) :
    Flaw known key (.list (before ++ item :: after))
      (.malformed key (.entryNotSingle before.length))
  | defaults {value} (hkey : key = "default") (h : ∀ entries, value ≠ .map entries) :
    Flaw known key value (.malformed key .notMapping)
  | default {before item after} (hkey : key = "default")
    (hbefore : ∀ b ∈ before, b.2 = .null ∨ ∃ fields, b.2 = .map fields)
    (h : ¬ (item.2 = .null ∨ ∃ fields, item.2 = .map fields)) :
    Flaw known key (.map (before ++ item :: after))
      (.malformed key (.fieldsNotMapping item.1))
  | unknown {value} (hkey : key ∉ directives) (h : known key = false) :
    Flaw known key value (.unknownPredicate key)

def contents (fields : Fields Json) : List String := fields.keys.filter (· ∉ controls)

/-- Fields without a mistake so far: no directive has a flaw, and there is one content at most. -/
structure Clean (known : String → Bool) (fields : Fields Json) : Prop where
  flawless : ∀ key value, (key, value) ∈ fields → ∀ e, ¬ Flaw known key value e
  single : (contents fields).length ≤ 1

/-- The first directive that is wrong: it has a flaw, or it is a second content. -/
inductive Wrong (known : String → Bool) (fields : Fields Json) : StepError → Prop
  | flaw {before key value after e} (split : fields = before ++ (key, value) :: after)
    (clean : Clean known before) (found : Flaw known key value e) : Wrong known fields e
  | conflicting {before first key value after} (split : fields = before ++ (key, value) :: after)
    (clean : Clean known before) (hfirst : contents before = [first])
    (flawless : ∀ e, ¬ Flaw known key value e) (content : key ∉ controls) :
    Wrong known fields (.conflicting first key)

/-- What is wrong with a step that has some fields. -/
inductive Mistake (known : String → Bool) (fields : Fields Json) : StepError → Prop
  | directive {e} (h : Wrong known fields e) : Mistake known fields e
  | noContent (clean : Clean known fields) (h : contents fields = []) :
    Mistake known fields .noContent
  | registeredPipe (clean : Clean known fields) (pipe : "pipe" ∈ fields.keys)
    (register : "register" ∈ fields.keys) : Mistake known fields .registeredPipe

section Fields

variable {known : String → Bool} {fields more : Fields Json} {key : String} {value : Json}
  {e : StepError}

theorem contents_append (fields more : Fields Json) :
    contents (fields ++ more) = contents fields ++ contents more := by
  simp [contents, Fields.keys]

theorem contents_singleton (key : String) (value : Json) :
    contents [(key, value)] = if key ∈ controls then [] else [key] := by
  by_cases h : key ∈ controls <;> simp [contents, Fields.keys, h]

theorem Wrong.append (h : Wrong known fields e) (more : Fields Json) :
    Wrong known (fields ++ more) e := by
  cases h with
  | @flaw before key value after e split clean found =>
    exact .flaw (by rw [split, List.append_assoc, List.cons_append]) clean found
  | @conflicting before first key value after split clean hfirst flawless content =>
    exact .conflicting (by rw [split, List.append_assoc, List.cons_append]) clean hfirst flawless
      content

theorem Clean.not_wrong (h : Clean known fields) : ¬ Wrong known fields e := by
  intro hwrong
  cases hwrong with
  | @flaw before key value after e split clean found =>
    exact h.flawless key value (by simp [split]) e found
  | @conflicting before first key value after split clean hfirst flawless content =>
    have hsingle := h.single
    rw [split, List.append_cons, contents_append, contents_append, contents_singleton,
      if_neg content, hfirst] at hsingle
    simp at hsingle

theorem keys_append_singleton (fields : Fields Json) (key : String) (value : Json) :
    Fields.keys (fields ++ [(key, value)]) = fields.keys ++ [key] := by
  simp [Fields.keys]

/-- One more directive without a flaw is no mistake, unless it is a second content. -/
theorem Clean.append (h : Clean known fields) (flawless : ∀ e, ¬ Flaw known key value e)
    (hsingle : key ∈ controls ∨ contents fields = []) : Clean known (fields ++ [(key, value)]) := by
  constructor
  · intro k v hmem
    obtain hmem | hmem := List.mem_append.1 hmem
    · exact h.flawless k v hmem
    · cases List.mem_singleton.1 hmem
      exact flawless
  · rw [contents_append, contents_singleton]
    obtain hkey | hnone := hsingle
    · rw [if_pos hkey, List.append_nil]
      exact h.single
    · rw [hnone]
      split <;> simp

end Fields

/-! ## Flaws of single directives -/

section Flaws

variable {known : String → Bool} {key : String} {value : Json} {e : StepError}

theorem flaw_name_iff : Flaw known "name" value e ↔
    (∀ s, value ≠ .string s) ∧ e = .malformed "name" .notString := by
  constructor
  · rintro (⟨-, h⟩ | ⟨hkey⟩ | ⟨hkey⟩ | ⟨hkey⟩ | ⟨hkey⟩ | ⟨hkey⟩ | ⟨hkey⟩ | ⟨hkey⟩)
    · exact ⟨h, rfl⟩
    all_goals simp [directives, controls] at hkey
  · rintro ⟨h, rfl⟩
    exact .name rfl h

theorem flaw_condition_iff (hcondition : key = "when" ∨ key = "result") :
    Flaw known key value e ↔
      (∀ s, value ≠ .string s) ∧ (∀ b, value ≠ .bool b) ∧ e = .malformed key .notCondition := by
  constructor
  · rintro (⟨hkey⟩ | ⟨-, hs, hb⟩ | ⟨hkey⟩ | ⟨hkey⟩ | ⟨hkey⟩ | ⟨hkey⟩ | ⟨hkey⟩ | ⟨hkey⟩)
    case condition => exact ⟨hs, hb, rfl⟩
    all_goals obtain rfl | rfl := hcondition <;> simp [directives, controls] at hkey
  · rintro ⟨hs, hb, rfl⟩
    exact .condition hcondition hs hb

theorem flaw_register_iff : Flaw known "register" value e ↔
    (∀ s, value = .string s → s = "") ∧ e = .malformed "register" .notLabel := by
  constructor
  · rintro (⟨hkey⟩ | ⟨hkey⟩ | ⟨-, h⟩ | ⟨hkey⟩ | ⟨hkey⟩ | ⟨hkey⟩ | ⟨hkey⟩ | ⟨hkey⟩)
    case label => exact ⟨h, rfl⟩
    all_goals simp [directives, controls] at hkey
  · rintro ⟨h, rfl⟩
    exact .label rfl h

theorem flaw_plugin_iff (hplugin : key ∉ directives) :
    Flaw known key value e ↔ known key = false ∧ e = .unknownPredicate key := by
  constructor
  · rintro (⟨hkey⟩ | ⟨hkey⟩ | ⟨hkey⟩ | ⟨hkey⟩ | ⟨hkey⟩ | ⟨hkey⟩ | ⟨hkey⟩ | ⟨-, h⟩)
    case unknown => exact ⟨h, rfl⟩
    all_goals simp [directives, controls, hkey] at hplugin
    obtain rfl | rfl := hkey <;> simp at hplugin
  · rintro ⟨h, rfl⟩
    exact .unknown hplugin h

theorem not_flaw_pipe : ¬ Flaw known "pipe" value e := by
  rintro (⟨hkey⟩ | ⟨hkey⟩ | ⟨hkey⟩ | ⟨hkey⟩ | ⟨hkey⟩ | ⟨hkey⟩ | ⟨hkey⟩ | ⟨hkey⟩) <;>
    simp [directives, controls] at hkey

/-- The first item that fails a test is the first one of all, or the first one of the rest. -/
theorem exists_first_cons_iff {α : Type} {p : α → Prop} {q : List α → α → Prop} {x : α}
    {rest : List α} :
    (∃ before item after, x :: rest = before ++ item :: after ∧ (∀ b ∈ before, p b) ∧ ¬ p item ∧
      q before item) ↔
    (¬ p x ∧ q [] x) ∨ p x ∧ ∃ before item after, rest = before ++ item :: after ∧
      (∀ b ∈ before, p b) ∧ ¬ p item ∧ q (x :: before) item := by
  constructor
  · rintro ⟨before, item, after, hsplit, hbefore, hitem, hq⟩
    cases before with
    | nil =>
      cases hsplit
      exact .inl ⟨hitem, hq⟩
    | cons b before =>
      obtain ⟨rfl, rfl⟩ := List.cons.inj hsplit
      obtain ⟨hx, hbefore⟩ := List.forall_mem_cons.1 hbefore
      exact .inr ⟨hx, before, item, after, rfl, hbefore, hitem, hq⟩
  · rintro (⟨hx, hq⟩ | ⟨hx, before, item, after, rfl, hbefore, hitem, hq⟩)
    · exact ⟨[], x, rest, rfl, by simp, hx, hq⟩
    · exact ⟨x :: before, item, after, rfl, List.forall_mem_cons.2 ⟨hx, hbefore⟩, hitem, hq⟩

theorem singleEntries_eq_error_iff {index : Nat} {items : List Json} :
    Draft.singleEntries index items = .error e ↔
      ∃ before item after, items = before ++ item :: after ∧
        (∀ b ∈ before, ∃ entry, b = .map [entry]) ∧ (¬ ∃ entry, item = .map [entry]) ∧
        e = .malformed "variable" (.entryNotSingle (index + before.length)) := by
  induction items generalizing index with
  | nil => simp [Draft.singleEntries]
  | cons first rest ih =>
    -- the number of the first wrong item counts from `index`, which the induction moves on
    rw [exists_first_cons_iff]
    by_cases hfirst : ∃ entry, first = .map [entry]
    · obtain ⟨entry, rfl⟩ := hfirst
      have hrest : Draft.singleEntries index (.map [entry] :: rest) = .error e ↔
          Draft.singleEntries (index + 1) rest = .error e := by
        rw [Draft.singleEntries]
        cases Draft.singleEntries (index + 1) rest <;> simp [bind, Except.bind, pure, Except.pure]
      rw [hrest, ih]
      simp only [List.length_cons, Nat.add_assoc, Nat.add_comm 1]
      simp
    · have herror : Draft.singleEntries index (first :: rest) =
          .error (.malformed "variable" (.entryNotSingle index)) := by
        unfold Draft.singleEntries
        split
        · next heq => cases heq
        · next entry more heq =>
          cases heq
          exact absurd ⟨entry, rfl⟩ hfirst
        · rfl
      rw [herror]
      simp [hfirst, eq_comm]

theorem fieldsByPredicate_eq_error_iff {entries : Fields Json} :
    Draft.fieldsByPredicate entries = .error e ↔
      ∃ before item after, entries = before ++ item :: after ∧
        (∀ b ∈ before, b.2 = .null ∨ ∃ fields, b.2 = .map fields) ∧
        ¬ (item.2 = .null ∨ ∃ fields, item.2 = .map fields) ∧
        e = .malformed "default" (.fieldsNotMapping item.1) := by
  induction entries with
  | nil => simp [Draft.fieldsByPredicate]
  | cons first rest ih =>
    obtain ⟨predicate, value⟩ := first
    rw [exists_first_cons_iff, ← ih]
    cases value with
    | map fields =>
      rw [Draft.fieldsByPredicate]
      cases Draft.fieldsByPredicate rest <;> simp [bind, Except.bind, pure, Except.pure]
    | null =>
      rw [Draft.fieldsByPredicate]
      cases Draft.fieldsByPredicate rest <;> simp [bind, Except.bind, pure, Except.pure]
    | _ => simp [Draft.fieldsByPredicate, eq_comm]

theorem flaw_variable_iff :
    Flaw known "variable" value e ↔ Draft.assignments value = .error e := by
  constructor
  · rintro (⟨hkey⟩ | ⟨hkey⟩ | ⟨hkey⟩ | ⟨-, hl, hm⟩ | ⟨-, hbefore, h⟩ | ⟨hkey⟩ | ⟨hkey⟩ | ⟨hkey⟩)
    case assignments => cases value <;> simp_all [Draft.assignments]
    case assignment before item after =>
      rw [Draft.assignments, singleEntries_eq_error_iff]
      exact ⟨before, item, after, rfl, hbefore, h, by rw [Nat.zero_add]⟩
    all_goals simp [directives, controls] at hkey
  · intro h
    cases value with
    | list items =>
      obtain ⟨before, item, after, rfl, hbefore, hitem, rfl⟩ := singleEntries_eq_error_iff.1 h
      rw [Nat.zero_add]
      exact .assignment rfl hbefore hitem
    | map fields => cases h
    | _ =>
      cases h
      exact .assignments rfl (by simp) (by simp)

theorem flaw_default_iff :
    Flaw known "default" value e ↔ Draft.defaultEntries value = .error e := by
  constructor
  · rintro (⟨hkey⟩ | ⟨hkey⟩ | ⟨hkey⟩ | ⟨hkey⟩ | ⟨hkey⟩ | ⟨-, h⟩ | ⟨-, hbefore, h⟩ | ⟨hkey⟩)
    case defaults => cases value <;> simp_all [Draft.defaultEntries]
    case default before item after =>
      rw [Draft.defaultEntries, fieldsByPredicate_eq_error_iff]
      exact ⟨before, item, after, rfl, hbefore, h, rfl⟩
    all_goals simp [directives, controls] at hkey
  · intro h
    cases value with
    | map entries =>
      obtain ⟨before, item, after, rfl, hbefore, hitem, rfl⟩ := fieldsByPredicate_eq_error_iff.1 h
      exact .default rfl hbefore hitem
    | _ =>
      cases h
      exact .defaults rfl (by simp)

end Flaws

/-! ## Collecting the directives -/

namespace Draft

variable {known : String → Bool} {fields : Fields Json} {d : Draft} {key : String} {value : Json}

/-- All that taking in a directive can do: it is rejected for its flaw, or it sets what controls the
step, or it is a content. -/
theorem add_cases (known : String → Bool) (d : Draft) (hkey : key ≠ "pipe") (value : Json) :
    (∃ e, Flaw known key value e ∧ d.add known key value = d.reject e) ∨
      (∀ e, ¬ Flaw known key value e) ∧
        ((key ∈ controls ∧ ∃ control, d.add known key value = { d with control } ∧
          (control.register.isSome ↔ key = "register" ∨ d.control.register.isSome)) ∨
        (key ∉ controls ∧ ∃ c : Content, c.kind = key ∧ (∀ steps, c ≠ .pipe steps) ∧
          d.add known key value = d.fill key (.ok c))) := by
  by_cases hname : key = "name"
  · subst hname
    simp only [add, flaw_name_iff]
    cases value with
    | string s => exact .inr ⟨by simp, .inl ⟨by simp [controls], _, rfl, by simp⟩⟩
    | _ => exact .inl ⟨_, ⟨by simp, rfl⟩, rfl⟩
  by_cases hcondition : key = "when" ∨ key = "result"
  · simp only [flaw_condition_iff hcondition]
    obtain rfl | rfl := hcondition
    all_goals
      cases value with
      | string s => exact .inr ⟨by simp, .inl ⟨by simp [controls], _, rfl, by simp⟩⟩
      | bool b => exact .inr ⟨by simp, .inl ⟨by simp [controls], _, rfl, by simp⟩⟩
      | _ => exact .inl ⟨_, ⟨by simp, by simp, rfl⟩, rfl⟩
  by_cases hregister : key = "register"
  · subst hregister
    simp only [flaw_register_iff]
    cases value with
    | string s =>
      by_cases hs : s = ""
      · exact .inl ⟨_, ⟨by simp [hs], rfl⟩, by simp [add, hs]⟩
      · exact .inr ⟨by simp [hs], .inl ⟨by simp [controls], ⟨d.control.name, d.control.guard,
          d.control.verdict, some s⟩, by simp [add, hs], by simp⟩⟩
    | _ => exact .inl ⟨_, ⟨by simp, rfl⟩, by simp [add]⟩
  by_cases hvariable : key = "variable"
  · subst hvariable
    simp only [flaw_variable_iff]
    cases hvalue : assignments value with
    | error e => exact .inl ⟨e, rfl, by simp [add, hvalue, Except.map, fill]⟩
    | ok entries =>
      exact .inr ⟨by simp, .inr ⟨by simp [controls], .assign entries, rfl, by simp,
        by simp [add, hvalue, Except.map]⟩⟩
  by_cases hdefault : key = "default"
  · subst hdefault
    simp only [flaw_default_iff]
    cases hvalue : defaultEntries value with
    | error e => exact .inl ⟨e, rfl, by simp [add, hvalue, Except.map, fill]⟩
    | ok entries =>
      exact .inr ⟨by simp, .inr ⟨by simp [controls], .defaults entries, rfl, by simp,
        by simp [add, hvalue, Except.map]⟩⟩
  -- any other key is the name of a plugin, known or not
  rw [not_or] at hcondition
  have hplugin : key ∉ directives := by simp [directives, controls, *]
  have hcontrols : key ∉ controls := by simp [controls, *]
  simp only [flaw_plugin_iff hplugin]
  cases hknown : known key with
  | false => exact .inl ⟨_, ⟨rfl, rfl⟩, by simp [add, fill, *]⟩
  | true =>
    exact .inr ⟨by simp, .inr ⟨hcontrols, .plugin key value, rfl, by simp, by simp [add, *]⟩⟩

/-- What a step in the making says of the directives that have been collected: what is wrong, or
that nothing is, which content there is and whether there is a `register`. -/
inductive Tracks (known : String → Bool) (fields : Fields Json) (d : Draft) : Prop
  | wrong {e} (cause_eq : d.cause = some e) (h : Wrong known fields e)
  | clean (cause_eq : d.cause = none) (h : Clean known fields)
    (contents_eq : contents fields = (d.content.map Content.kind).toList)
    (pipe_of_kind : ∀ c, d.content = some c → c.kind = "pipe" → ∃ steps, c = .pipe steps)
    (register_iff : d.control.register.isSome ↔ "register" ∈ fields.keys)

namespace Tracks

theorem blank : Tracks known [] blank :=
  .clean rfl ⟨by simp, by simp [contents, Fields.keys]⟩ rfl (by simp [Draft.blank])
    (by simp [Draft.blank, Fields.keys])

theorem reject (h : Tracks known fields d) {e : StepError} (hflaw : Flaw known key value e) :
    Tracks known (fields ++ [(key, value)]) (d.reject e) := by
  cases h with
  | @wrong e' cause_eq h => exact .wrong (by simp [Draft.reject, cause_eq]) (h.append _)
  | clean cause_eq h => exact .wrong (by simp [Draft.reject, cause_eq]) (.flaw rfl h hflaw)

theorem control (h : Tracks known fields d) (flawless : ∀ e, ¬ Flaw known key value e)
    (hkey : key ∈ controls) {control : Control}
    (hregister : control.register.isSome ↔ key = "register" ∨ d.control.register.isSome) :
    Tracks known (fields ++ [(key, value)]) { d with control } := by
  cases h with
  | @wrong e cause_eq h => exact .wrong cause_eq (h.append _)
  | clean cause_eq h contents_eq pipe_of_kind register_iff =>
    refine .clean cause_eq (h.append flawless (.inl hkey)) ?_ pipe_of_kind ?_
    · rw [contents_append, contents_singleton, if_pos hkey, List.append_nil, contents_eq]
    · rw [keys_append_singleton, List.mem_append, List.mem_singleton, hregister, register_iff]
      grind

theorem fill (h : Tracks known fields d) (flawless : ∀ e, ¬ Flaw known key value e)
    (hkey : key ∉ controls) {c : Content} (hkind : c.kind = key)
    (hpipe : key = "pipe" → ∃ steps, c = .pipe steps) :
    Tracks known (fields ++ [(key, value)]) (d.fill key (.ok c)) := by
  obtain ⟨ctrl, content, cause⟩ := d
  cases h with
  | @wrong e cause_eq h =>
    refine .wrong (e := e) ?_ (h.append _)
    cases content <;> simp_all [Draft.fill, Draft.reject]
  | clean cause_eq h contents_eq pipe_of_kind register_iff =>
    -- the first content is filled in, a second one is the mistake
    cases content with
    | none =>
      refine .clean cause_eq (h.append flawless (.inr contents_eq)) ?_ ?_ ?_
      · rw [contents_append, contents_singleton, if_neg hkey, contents_eq]
        simp [Draft.fill, hkind]
      · intro c' hc'
        cases hc'
        rwa [hkind]
      · have hregister : key ≠ "register" := fun heq => hkey (by simp [controls, heq])
        rw [keys_append_singleton, List.mem_append, List.mem_singleton, ← register_iff]
        simp [Draft.fill, Ne.symm hregister]
    | some first =>
      have hcause : (Draft.fill ⟨ctrl, some first, cause⟩ key (.ok c)).cause =
          some (.conflicting first.kind key) := by
        simp_all [Draft.fill, Draft.reject]
      exact .wrong hcause (.conflicting rfl h contents_eq flawless hkey)

theorem add (h : Tracks known fields d) (hkey : key ≠ "pipe") (value : Json) :
    Tracks known (fields ++ [(key, value)]) (d.add known key value) := by
  obtain ⟨e, hflaw, hadd⟩ | ⟨flawless, ⟨hcontrol, control, hadd, hregister⟩ |
    ⟨hcontrol, c, hkind, -, hadd⟩⟩ := add_cases known d hkey value
  · rw [hadd]
    exact h.reject hflaw
  · rw [hadd]
    exact h.control flawless hcontrol hregister
  · rw [hadd]
    exact h.fill flawless hcontrol hkind fun heq => absurd heq hkey

/-- The step that has been collected is kept with what is wrong with it, or nothing is wrong and it
has one content. -/
theorem finish_cases (h : Tracks known fields d) (position : Position) :
    (∃ cause, d.finish position = .invalid position cause ∧ Mistake known fields cause) ∨
      (∀ cause, ¬ Mistake known fields cause) ∧ ∃ c, d.content = some c ∧
        d.finish position = .valid position d.control c ∧ contents fields = [c.kind] := by
  cases h with
  | @wrong e cause_eq h => exact .inl ⟨e, by simp [finish, cause_eq], .directive h⟩
  | clean cause_eq h contents_eq pipe_of_kind register_iff =>
    cases hcontent : d.content with
    | none =>
      rw [hcontent] at contents_eq
      exact .inl ⟨.noContent, by simp [finish, cause_eq, hcontent], .noContent h contents_eq⟩
    | some c =>
      rw [hcontent, Option.map_some, Option.toList_some] at contents_eq
      have hpipe : "pipe" ∈ fields.keys ↔ c.kind = "pipe" := by
        have hmem : "pipe" ∈ contents fields ↔ "pipe" ∈ fields.keys := by
          simp [contents, controls]
        rw [← hmem, contents_eq, List.mem_singleton, eq_comm]
      -- of the mistakes of a whole step, only a registered pipe can be left now
      by_cases hboth : c.kind = "pipe" ∧ d.control.register.isSome
      · obtain ⟨hkind, hregister⟩ := hboth
        obtain ⟨steps, rfl⟩ := pipe_of_kind c hcontent hkind
        exact .inl ⟨.registeredPipe, by simp [finish, cause_eq, hcontent, hregister],
          .registeredPipe h (hpipe.2 hkind) (register_iff.1 hregister)⟩
      · refine .inr ⟨?_, c, rfl, ?_, contents_eq⟩
        · rintro cause (hwrong | ⟨-, hnone⟩ | ⟨-, hkey, hregister⟩)
          · exact h.not_wrong hwrong
          · rw [contents_eq] at hnone
            cases hnone
          · exact hboth ⟨hpipe.1 hkey, register_iff.2 hregister⟩
        · cases c with
          | pipe steps =>
            have hregister : ¬ d.control.register.isSome := fun h => hboth ⟨rfl, h⟩
            simp [finish, cause_eq, hcontent, hregister]
          | _ => simp [finish, cause_eq, hcontent]

end Tracks

end Draft

end Sluice
