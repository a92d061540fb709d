import Mathlib
import Sluice.Config.Draft
import Sluice.Proofs.Failing
import Sluice.Proofs.Mappings
import Sluice.Proofs.Texts
import Sluice.Run.Step

/-!
# What a value is bound to

Binding evaluates the texts of a value, in order, and puts what they give in their places; nothing
else of the value changes, and the first text without a value decides how the binding fails.  A
mapping is therefore always bound to a mapping.

* `Json.filled` : a value with other values in the places of its texts;
* `Json.rekeyed` : a value with other keys;
* `Context.bindMapping` : binding that asks whether a mapping has come out.
-/

namespace Sluice

/-! ## Filling the places of texts -/

namespace Json

mutual

/-- A value with another one in the place of each text. -/
def filled (f : String → Json) : Json → Json
  | .string s => f s
  | .list items => .list (filledItems f items)
  | .map fields => .map (filledFields f fields)
  | .null => .null
  | .bool b => .bool b
  | .number n => .number n

def filledItems (f : String → Json) : List Json → List Json
  | [] => []
  | v :: rest => v.filled f :: filledItems f rest

def filledFields (f : String → Json) : List (String × Json) → List (String × Json)
  | [] => []
  | (key, v) :: rest => (key, v.filled f) :: filledFields f rest

end

mutual

/-- A value with other keys in all its maps. -/
def rekeyed (g : String → String) : Json → Json
  | .list items => .list (rekeyedItems g items)
  | .map fields => .map (rekeyedFields g fields)
  | .string s => .string s
  | .null => .null
  | .bool b => .bool b
  | .number n => .number n

def rekeyedItems (g : String → String) : List Json → List Json
  | [] => []
  | v :: rest => v.rekeyed g :: rekeyedItems g rest

def rekeyedFields (g : String → String) : List (String × Json) → List (String × Json)
  | [] => []
  | (key, v) :: rest => (g key, v.rekeyed g) :: rekeyedFields g rest

end

section Congr

variable {f g : String → Json}

mutual

/-- Only what stands for the texts matters. -/
theorem filled_congr : ∀ {v : Json}, (∀ s ∈ v.texts, f s = g s) → v.filled f = v.filled g
  | .string s, h => h s (List.mem_singleton.2 rfl)
  | .list _, h => congrArg Json.list (filledItems_congr h)
  | .map _, h => congrArg Json.map (filledFields_congr h)
  | .null, _ | .bool _, _ | .number _, _ => rfl

theorem filledItems_congr : ∀ {items : List Json}, (∀ s ∈ textsOfItems items, f s = g s) →
    filledItems f items = filledItems g items
  | [], _ => rfl
  | _ :: _, h => by
    obtain ⟨hfirst, hrest⟩ := List.forall_mem_append.1 h
    rw [filledItems, filledItems, filled_congr hfirst, filledItems_congr hrest]

theorem filledFields_congr : ∀ {fields : List (String × Json)},
    (∀ s ∈ textsOfFields fields, f s = g s) → filledFields f fields = filledFields g fields
  | [], _ => rfl
  | _ :: _, h => by
    obtain ⟨hfirst, hrest⟩ := List.forall_mem_append.1 h
    rw [filledFields, filledFields, filled_congr hfirst, filledFields_congr hrest]

end

end Congr

section Keys

variable (g : String → String)

mutual

theorem texts_rekeyed : ∀ v : Json, (v.rekeyed g).texts = v.texts
  | .list items => textsOfItems_rekeyedItems items
  | .map fields => textsOfFields_rekeyedFields fields
  | .string _ | .null | .bool _ | .number _ => rfl

theorem textsOfItems_rekeyedItems :
    ∀ items : List Json, textsOfItems (rekeyedItems g items) = textsOfItems items
  | [] => rfl
  | v :: rest => by
    rw [rekeyedItems, textsOfItems, textsOfItems, texts_rekeyed v, textsOfItems_rekeyedItems rest]

theorem textsOfFields_rekeyedFields :
    ∀ fields : List (String × Json), textsOfFields (rekeyedFields g fields) = textsOfFields fields
  | [] => rfl
  | (_, v) :: rest => by
    rw [rekeyedFields, textsOfFields, textsOfFields, texts_rekeyed v,
      textsOfFields_rekeyedFields rest]

end

end Keys

end Json

/-! ## Binding is filling -/

namespace Binding

variable {view : View}

/-- What a text is replaced by, if it has a value. -/
def found (view : View) (s : String) : Json := (Expr.evaluate view s).toOption.getD .null

mutual

/-- The texts of a value are evaluated in order, and then they are replaced. -/
theorem value_eq : ∀ raw : Json,
    value view raw = (raw.texts.mapM (Expr.evaluate view)).map fun _ => raw.filled (found view)
  | .string s => by
    rw [value, Json.texts, Json.filled, found, List.mapM_cons, List.mapM_nil]
    cases Expr.evaluate view s <;> rfl
  | .list items => by
    rw [value, Json.texts, Json.filled, values_eq items]
    cases (Json.textsOfItems items).mapM (Expr.evaluate view) <;> rfl
  | .map entries => by
    rw [value, Json.texts, Json.filled, fields_eq entries]
    cases (Json.textsOfFields entries).mapM (Expr.evaluate view) <;> rfl
  | .null | .bool _ | .number _ => by simp only [value]; rfl

theorem values_eq : ∀ items : List Json,
    values view items = ((Json.textsOfItems items).mapM (Expr.evaluate view)).map fun _ =>
      Json.filledItems (found view) items
  | [] => by rw [values]; rfl
  | v :: rest => by
    rw [values, Json.textsOfItems, Json.filledItems, List.mapM_append, value_eq v, values_eq rest]
    cases v.texts.mapM (Expr.evaluate view) with
    | error e => rfl
    | ok ws => cases (Json.textsOfItems rest).mapM (Expr.evaluate view) <;> rfl

theorem fields_eq : ∀ entries : List (String × Json),
    fields view entries = ((Json.textsOfFields entries).mapM (Expr.evaluate view)).map fun _ =>
      Json.filledFields (found view) entries
  | [] => by rw [fields]; rfl
  | (key, v) :: rest => by
    rw [fields, Json.textsOfFields, Json.filledFields, List.mapM_append, value_eq v, fields_eq rest]
    cases v.texts.mapM (Expr.evaluate view) with
    | error e => rfl
    | ok ws => cases (Json.textsOfFields rest).mapM (Expr.evaluate view) <;> rfl

end

/-! ## What comes out -/

section Outcomes

variable {raw : Json}

theorem exists_value_iff :
    (∃ v, value view raw = .ok v) ↔ ∀ s ∈ raw.texts, ∃ v, Expr.evaluate view s = .ok v := by
  rw [value_eq, ← exists_mapM_eq_ok_iff]
  cases raw.texts.mapM (Expr.evaluate view) <;> simp [Except.map]

theorem value_eq_error_iff {e : EvalError} :
    value view raw = .error e ↔ ∃ before s after, raw.texts = before ++ s :: after ∧
      (∀ t ∈ before, ∃ v, Expr.evaluate view t = .ok v) ∧ Expr.evaluate view s = .error e := by
  rw [value_eq, ← mapM_eq_error_iff]
  cases raw.texts.mapM (Expr.evaluate view) <;> simp [Except.map]

theorem value_of_texts {f : String → Json} (h : ∀ s ∈ raw.texts, Expr.evaluate view s = .ok (f s)) :
    value view raw = .ok (raw.filled f) := by
  obtain ⟨ws, hws⟩ := exists_mapM_eq_ok_iff.2 fun s hs => ⟨f s, h s hs⟩
  rw [value_eq, hws]
  refine congrArg Except.ok (Json.filled_congr fun s hs => ?_)
  rw [found, h s hs]
  rfl

theorem value_map (fields : Fields Json) :
    value view (.map fields) = (Binding.fields view fields).map .map := by
  rw [value]
  cases Binding.fields view fields <;> rfl

theorem fields_eq_mapM (raw : Fields Json) :
    fields view raw = raw.mapM fun entry => (value view entry.2).map (entry.1, ·) := by
  induction raw with
  | nil => rfl
  | cons entry rest ih =>
    rw [fields, List.mapM_cons, ← ih]
    cases value view entry.2 <;> rfl

/-- The fields that come out are those that have gone in, each with what its value is bound to. -/
theorem fields_eq_ok_iff {raw bound : Fields Json} :
    fields view raw = .ok bound ↔
      List.Forall₂ (fun r b => b.1 = r.1 ∧ value view r.2 = .ok b.2) raw bound := by
  rw [fields_eq_mapM, mapM_eq_ok_iff]
  refine iff_of_eq (congrArg (List.Forall₂ · raw bound) ?_)
  funext r b
  cases value view r.2 <;> simp [Except.map, Prod.ext_iff, eq_comm]

theorem exists_fields_iff {raw : Fields Json} :
    (∃ bound, fields view raw = .ok bound) ↔ ∀ entry ∈ raw, ∃ v, value view entry.2 = .ok v := by
  rw [fields_eq_mapM, exists_mapM_eq_ok_iff]
  refine forall₂_congr fun entry _ => ?_
  cases value view entry.2 <;> simp [Except.map]

theorem keys_fields {raw bound : Fields Json} (h : fields view raw = .ok bound) :
    Fields.keys bound = Fields.keys raw := by
  replace h := fields_eq_ok_iff.1 h
  induction h with
  | nil => rfl
  | cons hentry _ ih => exact congrArg₂ List.cons hentry.1 ih

end Outcomes

end Binding

theorem Expr.evaluate_expression (view : View) (source : String) :
    evaluate view ("=" ++ source) = match parse source with
      | .error e => .error (.malformed e)
      | .ok e => e.eval view none := by
  have hlist : ("=" ++ source).toList = '=' :: source.toList := by
    rw [String.toList_append]
    rfl
  rw [evaluate, hlist]
  change (match parse (String.ofList source.toList) with
    | .error e => .error (.malformed e)
    | .ok e => e.eval view none : Except EvalError Json) = _
  rw [String.ofList_toList]

/-! ## Mappings are bound to mappings -/

/-- The fields that a value is bound to; `otherwise` is said of one that is bound to no mapping. -/
def Context.bindMapping (ctx : Context) (directive : String) (raw : Json)
    (otherwise : Json → StepError) : Except StepError (Fields Json) :=
  match Binding.value ctx.view raw with
  | .ok (.map bound) => .ok bound
  | .ok v => .error (otherwise v)
  | .error e => .error (.unbound directive e)

theorem Context.bindMapping_map (ctx : Context) (directive : String) (fields : Fields Json)
    (otherwise : Json → StepError) :
    ctx.bindMapping directive (.map fields) otherwise = ctx.bindFields directive fields := by
  rw [bindMapping, bindFields, Binding.value_map]
  cases Binding.fields ctx.view fields <;> rfl

/-- The fields of an entry of a `default` directive are a mapping, or null for an empty one. -/
theorem forall₂_of_fieldsByPredicate {given : Fields Json} {entries : List (String × Fields Json)}
    (h : Draft.fieldsByPredicate given = .ok entries) :
    List.Forall₂ (fun g e => e.1 = g.1 ∧ (g.2 = .map e.2 ∨ g.2 = .null ∧ e.2 = [])) given
      entries := by
  induction given generalizing entries with
  | nil =>
    cases h
    exact .nil
  | cons entry rest ih =>
    obtain ⟨predicate, value⟩ := entry
    cases value with
    | map fields =>
      obtain ⟨more, hmore, h⟩ := bind_eq_ok_iff.1 h
      cases h
      exact .cons ⟨rfl, .inl rfl⟩ (ih hmore)
    | null =>
      obtain ⟨more, hmore, h⟩ := bind_eq_ok_iff.1 h
      cases h
      exact .cons ⟨rfl, .inr ⟨rfl, rfl⟩⟩ (ih hmore)
    | _ => cases h

/-- Binding keeps the structure of a value.  It succeeds if and only if every text of the value
evaluates, and then each text is replaced by what it evaluates to and all else is the same; if it
fails, then as the first text that fails.  The keys of maps do not matter, and a value of which no
text starts with `=` is bound to itself.  So a mapping is bound to a mapping with the same keys, and
nothing has to be said of parameters or of accepted default parameters that are not. -/
theorem Binding.value_fills_texts :
    (∀ (view : View) (raw : Json),
      ((∃ v, value view raw = .ok v) ↔ ∀ s ∈ raw.texts, ∃ v, Expr.evaluate view s = .ok v) ∧
      (∀ f, (∀ s ∈ raw.texts, Expr.evaluate view s = .ok (f s)) →
        value view raw = .ok (raw.filled f)) ∧
      (∀ e, value view raw = .error e ↔ ∃ before s after, raw.texts = before ++ s :: after ∧
        (∀ t ∈ before, ∃ v, Expr.evaluate view t = .ok v) ∧ Expr.evaluate view s = .error e) ∧
      (∀ g : String → String,
        ((∃ v, value view (raw.rekeyed g) = .ok v) ↔ ∃ v, value view raw = .ok v) ∧
        ∀ e, value view (raw.rekeyed g) = .error e ↔ value view raw = .error e) ∧
      ((∀ s ∈ raw.texts, s.toList.head? ≠ some '=') → value view raw = .ok raw)) ∧
    (∀ view s, s.toList.head? ≠ some '=' → Expr.evaluate view s = .ok (.string s)) ∧
    (∀ view source, Expr.evaluate view ("=" ++ source) = match Expr.parse source with
      | .error e => .error (.malformed e)
      | .ok e => e.eval view none) ∧
    (∀ view fields v, value view (.map fields) = .ok v →
      ∃ bound, v = .map bound ∧ Fields.keys bound = Fields.keys fields) ∧
    (∀ (ctx : Context) plugin raw otherwise, ctx.bindParams plugin raw = do
      ctx.bindMapping plugin (.map (← ctx.rawParams plugin raw)) otherwise) ∧
    (∀ given entries, Draft.defaultEntries given = .ok entries → ∃ fields, given = .map fields ∧
      List.Forall₂ (fun g e => e.1 = g.1 ∧ (g.2 = .map e.2 ∨ g.2 = .null ∧ e.2 = [])) fields
        entries) ∧
    (∀ plugin raw rest (ctx : Context) otherwise,
      (setDefaults ((plugin, raw) :: rest)).run ctx =
        match ctx.bindMapping "default" (.map raw) otherwise with
        | .error e => ⟨.error e, ctx, []⟩
        | .ok fields => (setDefaults rest).run (ctx.mergeDefaults plugin fields)) := by
  refine ⟨fun view raw => ⟨exists_value_iff, fun f => value_of_texts, fun e => value_eq_error_iff,
    fun g => ⟨?_, fun e => ?_⟩, fun h => ?_⟩, fun view s => fixed_of_head,
    Expr.evaluate_expression, fun view fields v h => ?_, fun ctx plugin raw otherwise => ?_,
    fun given entries h => ?_, fun plugin raw rest ctx otherwise => ?_⟩
  -- success depends on the texts alone, and new keys leave them as they are
  · rw [exists_value_iff, exists_value_iff, Json.texts_rekeyed]
  · rw [value_eq_error_iff, value_eq_error_iff, Json.texts_rekeyed]
  · exact (value_eq_self raw).2 fun s hs => fixed_of_head (h s hs)
  · rw [value_map] at h
    cases hbound : Binding.fields view fields with
    | error e =>
      rw [hbound] at h
      cases h
    | ok bound =>
      rw [hbound] at h
      cases h
      exact ⟨bound, rfl, keys_fields hbound⟩
  · exact congrArg (ctx.rawParams plugin raw >>= ·)
      (funext fun fields => (ctx.bindMapping_map plugin fields otherwise).symm)
  · cases given with
    | map fields => exact ⟨fields, rfl, forall₂_of_fieldsByPredicate h⟩
    | _ => cases h
  · rw [Context.bindMapping_map]
    exact setDefaults_cons_run plugin raw rest ctx

/-- The value of a text may start with `=` itself, and so may a key; neither is evaluated. -/
theorem Binding.value_fills_texts_nested :
    let view := (Context.empty.setVariable "name" (.string "=V.key")).view
    let raw : Json := .map [("=V.name", .string "=V.name"),
      ("tags", .list [.string "=[V.name, true]", .string "plain", .null])]
    (∀ s ∈ raw.texts, ∃ v, Expr.evaluate view s = .ok v) ∧
    value view raw = .ok (.map [("=V.name", .string "=V.key"),
      ("tags", .list [.list [.string "=V.key", .bool true], .string "plain", .null])]) ∧
    value view (.list [raw, .string "=V.first", .string "=V.second"]) =
      .error (.pathNotFound "V.first") := by
  intro view raw
  let f (s : String) : Json :=
    if s = "=V.name" then .string "=V.key"
    else if s = "=[V.name, true]" then .list [.string "=V.key", .bool true]
    else .string s
  have hname : Expr.evaluate view "=V.name" = .ok (.string "=V.key") := by
    cbv
  have htags :
      Expr.evaluate view "=[V.name, true]" = .ok (.list [.string "=V.key", .bool true]) := by
    cbv
  have hfirst : Expr.evaluate view "=V.first" = .error (.pathNotFound "V.first") := by
    cbv
  have hf : ∀ s ∈ raw.texts, Expr.evaluate view s = .ok (f s) := by
    have hplain := value_fills_texts.2.1 view "plain" (by decide)
    simp [raw, Json.texts, Json.textsOfItems, Json.textsOfFields, f, hname, htags, hplain]
  refine ⟨fun s hs => ⟨f s, hf s hs⟩, (value_fills_texts.1 view raw).2.1 f hf, ?_⟩
  exact ((value_fills_texts.1 view _).2.2.1 _).2 ⟨raw.texts, "=V.first", ["=V.second"],
    by simp [Json.texts, Json.textsOfItems], fun s hs => ⟨f s, hf s hs⟩, hfirst⟩

end Sluice
