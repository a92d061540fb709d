import Mathlib
import Sluice.Proofs.Binding.Values

/-!
# The parameters of a plugin

The parameters that a plugin is called with are its default parameters overlaid by what the step
gives, and only then bound.  So a default parameter is not bound where the step gives another value,
and nothing else in the default parameters matters.

* `Json.given?` : the fields that a step gives to its plugin;
* `Context.effective?` : what is bound under a name.
-/

namespace Sluice

/-- The fields that a step gives to its plugin: those of a mapping, none for null. -/
def Json.given? : Json → Option (Fields Json)
  | .map own => some own
  | .null => some []
  | _ => none

/-- What is bound under a name: what the step gives, otherwise the default parameter. -/
def Context.effective? (ctx : Context) (plugin : String) (own : Fields Json) (name : String) :
    Option Json :=
  (Fields.get? name own).or (Fields.get? name (ctx.defaultsFor plugin))

/-! ## Bound fields by name -/

namespace Binding

variable {view : View} {raw bound : Fields Json}

/-- Under each name stands what the value there is bound to. -/
theorem get?_fields (h : fields view raw = .ok bound) (name : String) :
    Fields.get? name bound = (Fields.get? name raw).bind fun v => (value view v).toOption := by
  replace h := fields_eq_ok_iff.1 h
  induction h with
  | nil => rfl
  | cons hentry _ ih =>
    obtain ⟨hkey, hvalue⟩ := hentry
    rw [Fields.get?, Fields.get?, hkey, ih]
    split
    · rw [Option.bind_some, hvalue]
      rfl
    · rfl

end Binding

/-! ## Parameters -/

namespace Context

section Reading

variable {ctx ctx' : Context}

theorem bindFields_of_view_eq (h : ctx.view = ctx'.view) (directive : String)
    (fields : Fields Json) :
    ctx.bindFields directive fields = ctx'.bindFields directive fields := by
  rw [bindFields, bindFields, h]

theorem bindParams_of_view_eq (h : ctx.view = ctx'.view) {plugin : String}
    (hd : ctx.defaultsFor plugin = ctx'.defaultsFor plugin) (raw : Json) :
    ctx.bindParams plugin raw = ctx'.bindParams plugin raw := by
  have hraw : ctx.rawParams plugin raw = ctx'.rawParams plugin raw := by
    cases raw <;> simp only [rawParams, hd]
  simp only [bindParams, hraw, bindFields_of_view_eq h]

end Reading

variable {ctx : Context} {plugin : String} {raw : Json} {own bound : Fields Json}

theorem bindParams_of_given (h : raw.given? = some own) :
    ctx.bindParams plugin raw =
      ctx.bindFields plugin (Fields.overlay (ctx.defaultsFor plugin) own) := by
  cases raw with
  | map fields =>
    cases h
    rfl
  | null =>
    cases h
    rfl
  | _ => cases h

theorem bindParams_of_not_given (h : raw.given? = none) :
    ctx.bindParams plugin raw = .error (.malformed plugin (.paramsNotMapping raw)) := by
  cases raw with
  | map fields => cases h
  | null => cases h
  | _ => rfl

theorem bindFields_eq_ok_iff {directive : String} {fields : Fields Json} :
    ctx.bindFields directive fields = .ok bound ↔ Binding.fields ctx.view fields = .ok bound := by
  rw [bindFields]
  cases Binding.fields ctx.view fields <;> simp

theorem get?_overlay_defaults (hown : (Fields.keys own).Nodup) (name : String) :
    Fields.get? name (Fields.overlay (ctx.defaultsFor plugin) own) = ctx.effective? plugin own name :=
  Fields.get?_overlay hown name

/-- Binding succeeds if everything that is in effect can be bound. -/
theorem exists_bindParams_iff (hdefaults : (Fields.keys (ctx.defaultsFor plugin)).Nodup)
    (hown : (Fields.keys own).Nodup) (h : raw.given? = some own) :
    (∃ bound, ctx.bindParams plugin raw = .ok bound) ↔
      ∀ name v, ctx.effective? plugin own name = some v → ∃ w, Binding.value ctx.view v = .ok w := by
  rw [bindParams_of_given h]
  simp only [bindFields_eq_ok_iff, Binding.exists_fields_iff, Prod.forall,
    Fields.mem_iff_get? (Fields.nodup_keys_overlay hdefaults own), get?_overlay_defaults hown]

theorem keys_bindParams (hown : (Fields.keys own).Nodup) (h : raw.given? = some own)
    (hbound : ctx.bindParams plugin raw = .ok bound) :
    Fields.keys bound = Fields.keys (ctx.defaultsFor plugin) ++
      (Fields.keys own).filter (· ∉ Fields.keys (ctx.defaultsFor plugin)) := by
  rw [bindParams_of_given h, bindFields_eq_ok_iff] at hbound
  rw [Binding.keys_fields hbound, Fields.keys_overlay hown]

theorem get?_bindParams (hown : (Fields.keys own).Nodup) (h : raw.given? = some own)
    (hbound : ctx.bindParams plugin raw = .ok bound) (name : String) :
    Fields.get? name bound =
      (ctx.effective? plugin own name).bind fun v => (Binding.value ctx.view v).toOption := by
  rw [bindParams_of_given h, bindFields_eq_ok_iff] at hbound
  rw [Binding.get?_fields hbound, get?_overlay_defaults hown]

/-! ## Overridden default parameters -/

section Overridden

variable {d : Defaults}

/-- What is in effect depends on the default parameters that the step does not override. -/
theorem effective?_of_agree
    (h : ∀ name ∉ Fields.keys own, Fields.get? name ({ ctx with defaults := d }.defaultsFor plugin) =
      Fields.get? name (ctx.defaultsFor plugin)) (name : String) :
    { ctx with defaults := d }.effective? plugin own name = ctx.effective? plugin own name := by
  rw [effective?, effective?]
  by_cases hname : name ∈ Fields.keys own
  · obtain ⟨v, hv⟩ := Option.isSome_iff_exists.1 ((Fields.get?_isSome_iff name own).2 hname)
    rw [hv]
    rfl
  · rw [h name hname]

/-- If the overridden default parameters have their places in common, then binding is the same and
fails in the same way. -/
theorem bindParams_of_agree (hdefaults : (Fields.keys (ctx.defaultsFor plugin)).Nodup)
    (hown : (Fields.keys own).Nodup) (hgiven : raw.given? = some own)
    (h : ∀ name, { ctx with defaults := d }.effective? plugin own name =
      ctx.effective? plugin own name)
    (hkeys : Fields.keys ({ ctx with defaults := d }.defaultsFor plugin) =
      Fields.keys (ctx.defaultsFor plugin)) :
    { ctx with defaults := d }.bindParams plugin raw = ctx.bindParams plugin raw := by
  have heq : Fields.overlay ({ ctx with defaults := d }.defaultsFor plugin) own =
      Fields.overlay (ctx.defaultsFor plugin) own := by
    refine Fields.eq_of_get? (Fields.nodup_keys_overlay (hkeys ▸ hdefaults) own) ?_ fun name => ?_
    · rw [Fields.keys_overlay hown, Fields.keys_overlay hown, hkeys]
    · rw [get?_overlay_defaults hown, get?_overlay_defaults hown, h]
  rw [bindParams_of_given hgiven, bindParams_of_given hgiven, heq]
  exact bindFields_of_view_eq rfl plugin _

end Overridden

/-- Parameters are bound if and only if the step gives a mapping or null and everything that is in
effect can be bound: its own fields, and the default parameters under the other names.  The result
has the default parameters first and then what the step adds, and under each name stands what is in
effect there, bound.  A default parameter that the step overrides may be anything, also one that
cannot be bound, or be missing; the default parameters of other plugins are never looked at. -/
theorem bindParams_overlays_defaults (ctx : Context) (plugin : String) (raw : Json)
    (hdefaults : (Fields.keys (ctx.defaultsFor plugin)).Nodup)
    (hraw : ∀ own, raw.given? = some own → (Fields.keys own).Nodup) :
    ((∃ bound, ctx.bindParams plugin raw = .ok bound) ↔ ∃ own, raw.given? = some own ∧
      ∀ name v, ctx.effective? plugin own name = some v →
        ∃ w, Binding.value ctx.view v = .ok w) ∧
    (∀ own bound, raw.given? = some own → ctx.bindParams plugin raw = .ok bound →
      Fields.keys bound = Fields.keys (ctx.defaultsFor plugin) ++
        (Fields.keys own).filter (· ∉ Fields.keys (ctx.defaultsFor plugin)) ∧
      ∀ name v, ctx.effective? plugin own name = some v →
        ∃ w, Binding.value ctx.view v = .ok w ∧ Fields.get? name bound = some w) ∧
    (∀ own d, raw.given? = some own →
      (Fields.keys ({ ctx with defaults := d }.defaultsFor plugin)).Nodup →
      (∀ name ∉ Fields.keys own, Fields.get? name ({ ctx with defaults := d }.defaultsFor plugin) =
        Fields.get? name (ctx.defaultsFor plugin)) →
      ((∃ bound, { ctx with defaults := d }.bindParams plugin raw = .ok bound) ↔
        ∃ bound, ctx.bindParams plugin raw = .ok bound) ∧
      (∀ bound bound', { ctx with defaults := d }.bindParams plugin raw = .ok bound →
        ctx.bindParams plugin raw = .ok bound' → bound.Perm bound') ∧
      (Fields.keys ({ ctx with defaults := d }.defaultsFor plugin) =
          Fields.keys (ctx.defaultsFor plugin) →
        { ctx with defaults := d }.bindParams plugin raw = ctx.bindParams plugin raw)) ∧
    (∀ d, { ctx with defaults := d }.defaultsFor plugin = ctx.defaultsFor plugin →
      { ctx with defaults := d }.bindParams plugin raw = ctx.bindParams plugin raw) := by
  refine ⟨⟨fun h => ?_, fun ⟨own, hgiven, h⟩ => ?_⟩, fun own bound hgiven hbound => ⟨?_, ?_⟩,
    fun own d hgiven hd hagree => ?_, fun d h => ?_⟩
  · cases hgiven : raw.given? with
    | none =>
      obtain ⟨bound, hbound⟩ := h
      rw [bindParams_of_not_given hgiven] at hbound
      cases hbound
    | some own => exact ⟨own, rfl, (exists_bindParams_iff hdefaults (hraw own hgiven) hgiven).1 h⟩
  · exact (exists_bindParams_iff hdefaults (hraw own hgiven) hgiven).2 h
  · exact keys_bindParams (hraw own hgiven) hgiven hbound
  · intro name v hv
    obtain ⟨w, hw⟩ := (exists_bindParams_iff hdefaults (hraw own hgiven) hgiven).1
      ⟨bound, hbound⟩ name v hv
    refine ⟨w, hw, ?_⟩
    rw [get?_bindParams (hraw own hgiven) hgiven hbound, hv, Option.bind_some, hw]
    rfl
  · have hown := hraw own hgiven
    have heffective := effective?_of_agree hagree
    refine ⟨?_, fun bound bound' hbound hbound' => ?_,
      bindParams_of_agree hdefaults hown hgiven heffective⟩
    · rw [exists_bindParams_iff hd hown hgiven, exists_bindParams_iff hdefaults hown hgiven]
      simp only [heffective]
      rfl
    -- the order may differ with that of the defaults, so the fields are compared name by name
    · refine Fields.perm_of_get? ?_ ?_ fun name => ?_
      · rw [keys_bindParams hown hgiven hbound, ← Fields.keys_overlay hown]
        exact Fields.nodup_keys_overlay hd own
      · rw [keys_bindParams hown hgiven hbound', ← Fields.keys_overlay hown]
        exact Fields.nodup_keys_overlay hdefaults own
      · rw [get?_bindParams hown hgiven hbound, get?_bindParams hown hgiven hbound', heffective]
        rfl
  · have hview : { ctx with defaults := d }.view = ctx.view := rfl
    exact bindParams_of_view_eq hview h raw

/-- The default tone cannot be bound.  That matters if the step gives no other one; if it does, then
the default may be anything. -/
theorem bindParams_overlays_defaults_tone :
    let ctx := (empty.setVariable "who" (.string "Ann")).mergeDefaults "greet"
      [("tone", .string "=V.missing"), ("name", .string "=V.who")]
    let own : Fields Json := [("loud", .bool true), ("tone", .string "warm")]
    let bound : Fields Json :=
      [("tone", .string "warm"), ("name", .string "Ann"), ("loud", .bool true)]
    (Fields.keys (ctx.defaultsFor "greet")).Nodup ∧ (Fields.keys own).Nodup ∧
    ctx.bindParams "greet" .null = .error (.unbound "greet" (.pathNotFound "V.missing")) ∧
    ctx.bindParams "greet" (.map own) = .ok bound ∧
    ∀ v, ∃ bound', (ctx.mergeDefaults "greet" [("tone", v)]).bindParams "greet" (.map own) =
      .ok bound' ∧ bound'.Perm bound := by
  intro ctx own bound
  have hdefaults : (Fields.keys (ctx.defaultsFor "greet")).Nodup := by
    decide
  have hown : (Fields.keys own).Nodup := by
    decide
  have hbound : ctx.bindParams "greet" (.map own) = .ok bound := by
    cbv
  refine ⟨hdefaults, hown, by cbv, hbound, fun v => ?_⟩
  have hraw : ∀ own', (Json.map own).given? = some own' → (Fields.keys own').Nodup := by
    rintro _ ⟨⟩
    exact hown
  have hv : (ctx.mergeDefaults "greet" [("tone", v)]).defaultsFor "greet" =
      [("tone", v), ("name", .string "=V.who")] := by
    rw [defaultsFor_mergeDefaults]
    rfl
  have hkeys :
      (Fields.keys ((ctx.mergeDefaults "greet" [("tone", v)]).defaultsFor "greet")).Nodup := by
    rw [hv]
    change ["tone", "name"].Nodup
    decide
  have hagree : ∀ name ∉ Fields.keys own,
      Fields.get? name ((ctx.mergeDefaults "greet" [("tone", v)]).defaultsFor "greet") =
        Fields.get? name (ctx.defaultsFor "greet") := by
    intro name hname
    have htone : "tone" ≠ name := fun h => hname (h.subst (by decide))
    rw [hv, Fields.get?, if_neg htone]
    exact (if_neg htone).symm
  obtain ⟨hiff, hperm, -⟩ := (bindParams_overlays_defaults ctx "greet" (.map own) hdefaults
    hraw).2.2.1 own _ rfl hkeys hagree
  obtain ⟨bound', hbound'⟩ := hiff.2 ⟨bound, hbound⟩
  exact ⟨bound', hbound', hperm bound' bound hbound' hbound⟩

end Context

end Sluice
