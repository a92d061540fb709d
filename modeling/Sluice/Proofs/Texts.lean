import Sluice.Context
import Sluice.Proofs.Mappings
import Sluice.Run.Binding

/-!
# Texts inside values

The texts at the leaves of values, default parameters and configurations, in order.  Keys of maps do
not count: binding leaves them alone.  A value is bound to itself exactly if every text inside it
evaluates to itself.
-/

namespace Sluice

/-! ## Texts of values -/

namespace Json

mutual

/-- The texts at the leaves of a value. -/
def texts : Json → List String
  | .string s => [s]
  | .list items => textsOfItems items
  | .map fields => textsOfFields fields
  | _ => []

def textsOfItems : List Json → List String
  | [] => []
  | v :: rest => texts v ++ textsOfItems rest

def textsOfFields : List (String × Json) → List String
  | [] => []
  | (_, v) :: rest => texts v ++ textsOfFields rest

end

theorem mem_textsOfFields {s : String} {fields : Fields Json} :
    s ∈ textsOfFields fields ↔ ∃ entry ∈ fields, s ∈ texts entry.2 := by
  induction fields with
  | nil => simp [textsOfFields]
  | cons entry rest ih => simp [textsOfFields, ih]

end Json

theorem Json.mem_textsOfFields_overlay {s : String} {base later : Fields Json}
    (h : s ∈ textsOfFields (Fields.overlay base later)) :
    s ∈ textsOfFields base ∨ s ∈ textsOfFields later := by
  obtain ⟨entry, hentry, hs⟩ := mem_textsOfFields.1 h
  rcases Fields.mem_overlay hentry with hb | hl
  · exact .inl (mem_textsOfFields.2 ⟨entry, hb, hs⟩)
  · exact .inr (mem_textsOfFields.2 ⟨entry, hl, hs⟩)

/-! ## Values that are bound to themselves -/

namespace Binding

variable {view : View}

/-- Whether a text stands for itself. -/
def Fixed (view : View) (s : String) : Prop := Expr.evaluate view s = .ok (.string s)

/-- A text without the leading `=` stands for itself. -/
theorem fixed_of_head {s : String} (h : s.toList.head? ≠ some '=') : Fixed view s := by
  unfold Fixed Expr.evaluate
  split
  · next source hs =>
    rw [hs] at h
    exact absurd rfl h
  · rfl

mutual

theorem value_eq_self : ∀ v : Json, value view v = .ok v ↔ ∀ s ∈ v.texts, Fixed view s
  | .null => by simp [value, Json.texts]
  | .bool b => by simp [value, Json.texts]
  | .number n => by simp [value, Json.texts]
  | .string s => by simp [value, Json.texts, Fixed]
  | .list items => by
    rw [value, Json.texts, ← values_eq_self items]
    cases values view items with
    | error e => simp [bind, Except.bind]
    | ok vs => simp [bind, Except.bind, pure, Except.pure]
  | .map entries => by
    rw [value, Json.texts, ← fields_eq_self entries]
    cases fields view entries with
    | error e => simp [bind, Except.bind]
    | ok bound => simp [bind, Except.bind, pure, Except.pure]

theorem values_eq_self :
    ∀ items : List Json, values view items = .ok items ↔
      ∀ s ∈ Json.textsOfItems items, Fixed view s
  | [] => by simp [values, Json.textsOfItems]
  | v :: rest => by
    rw [values, Json.textsOfItems, List.forall_mem_append, ← value_eq_self v, ← values_eq_self rest]
    cases value view v with
    | error e => simp [bind, Except.bind]
    | ok w => cases values view rest with
      | error e => simp [bind, Except.bind]
      | ok ws => simp [bind, Except.bind, pure, Except.pure]

theorem fields_eq_self :
    ∀ entries : List (String × Json), fields view entries = .ok entries ↔
      ∀ s ∈ Json.textsOfFields entries, Fixed view s
  | [] => by simp [fields, Json.textsOfFields]
  | (key, v) :: rest => by
    rw [fields, Json.textsOfFields, List.forall_mem_append, ← value_eq_self v,
      ← fields_eq_self rest]
    cases value view v with
    | error e => simp [bind, Except.bind]
    | ok w => cases fields view rest with
      | error e => simp [bind, Except.bind]
      | ok ws => simp [bind, Except.bind, pure, Except.pure]

end

end Binding

/-! ## Texts of configurations -/

def Defaults.texts (d : Defaults) : List String :=
  d.entries.flatMap fun entry => Json.textsOfFields entry.2

def textsOfEntries (entries : List (String × Fields Json)) : List String :=
  entries.flatMap fun entry => Json.textsOfFields entry.2

/-- The text of a condition that may be missing. -/
def Condition.textsOf : Option Condition → List String
  | some c => c.toJson.texts
  | none => []

mutual

/-- The texts of a step that are evaluated: those of its conditions and of its content. -/
def Step.texts : Step → List String
  | .invalid _ _ => []
  | .valid _ control content =>
    Condition.textsOf control.guard ++ Condition.textsOf control.verdict ++ content.texts

def Content.texts : Content → List String
  | .plugin _ params => params.texts
  | .assign entries => Json.textsOfFields entries
  | .defaults entries => textsOfEntries entries
  | .pipe steps => textsOfSteps steps

def textsOfSteps : List Step → List String
  | [] => []
  | first :: rest => first.texts ++ textsOfSteps rest

end

def Pipe.texts (p : Pipe) : List String := textsOfEntries p.defaults ++ textsOfSteps p.steps

/-! ## Texts in default parameters -/

theorem mem_textsOfEntries {s : String} {entries : List (String × Fields Json)} :
    s ∈ textsOfEntries entries ↔ ∃ entry ∈ entries, s ∈ Json.textsOfFields entry.2 :=
  List.mem_flatMap

theorem mem_adjustEntries {s plugin : String} {fields : Fields Json}
    {entries : List (String × Fields Json)}
    (h : s ∈ textsOfEntries (Index.adjustEntries plugin
      (fun old => Fields.overlay (old.getD []) fields) entries)) :
    s ∈ textsOfEntries entries ∨ s ∈ Json.textsOfFields fields := by
  have hnew : s ∈ Json.textsOfFields (Fields.overlay [] fields) →
      s ∈ Json.textsOfFields fields := by
    intro hs
    rcases Json.mem_textsOfFields_overlay hs with hs | hs
    · cases hs
    · exact hs
  -- a new key goes in front of the first entry or behind it, a present one is adjusted in its place
  induction entries with
  | nil =>
    obtain ⟨entry, hentry, hs⟩ := mem_textsOfEntries.1 h
    rw [List.mem_singleton.1 hentry] at hs
    exact .inr (hnew hs)
  | cons first rest ih =>
    obtain ⟨k, v⟩ := first
    rw [Index.adjustEntries] at h
    split at h
    · obtain ⟨entry, hentry, hs⟩ := mem_textsOfEntries.1 h
      rcases List.mem_cons.1 hentry with rfl | hentry
      · exact .inr (hnew hs)
      · exact .inl (mem_textsOfEntries.2 ⟨entry, hentry, hs⟩)
    · split at h
      · obtain ⟨entry, hentry, hs⟩ := mem_textsOfEntries.1 h
        rcases List.mem_cons.1 hentry with rfl | hentry
        · rcases Json.mem_textsOfFields_overlay hs with hs | hs
          · exact .inl (mem_textsOfEntries.2 ⟨_, List.mem_cons_self, hs⟩)
          · exact .inr hs
        · exact .inl (mem_textsOfEntries.2 ⟨entry, List.mem_cons_of_mem _ hentry, hs⟩)
      · rcases List.mem_append.1 h with h | h
        · exact .inl (List.mem_append.2 (.inl h))
        · exact (ih h).imp_left fun h => List.mem_append.2 (.inr h)

theorem mem_texts_mergeDefaults {s plugin : String} {ctx : Context} {fields : Fields Json}
    (h : s ∈ (ctx.mergeDefaults plugin fields).defaults.texts) :
    s ∈ ctx.defaults.texts ∨ s ∈ Json.textsOfFields fields :=
  mem_adjustEntries h

theorem mem_texts_defaultsFor {s plugin : String} {ctx : Context}
    (h : s ∈ Json.textsOfFields (ctx.defaultsFor plugin)) : s ∈ ctx.defaults.texts := by
  rw [Context.defaultsFor] at h
  cases hd : ctx.defaults.get? plugin with
  | none =>
    rw [hd] at h
    cases h
  | some fields =>
    rw [hd] at h
    exact List.mem_flatMap.2 ⟨(plugin, fields), Index.mem_of_get? hd, h⟩

theorem mem_texts_rawParams {s plugin : String} {ctx : Context} {raw : Json} {fields : Fields Json}
    (h : ctx.rawParams plugin raw = .ok fields) (hs : s ∈ Json.textsOfFields fields) :
    s ∈ ctx.defaults.texts ∨ s ∈ raw.texts := by
  unfold Context.rawParams at h
  split at h
  · cases h
    exact (Json.mem_textsOfFields_overlay hs).imp_left mem_texts_defaultsFor
  · cases h
    exact .inl (mem_texts_defaultsFor hs)
  · cases h

end Sluice
