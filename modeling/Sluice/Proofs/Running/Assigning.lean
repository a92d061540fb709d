import Mathlib
import Sluice.Config.Reader
import Sluice.Proofs.Mappings
import Sluice.Proofs.Running.Parts

/-!
# Assigning variables

The assignments of a step are done one after the other, each in the context that those before it
have left, up to the first value that cannot be bound.  What has been stored by then stays, and the
step is false.  It does not matter whether the assignments have been written as a mapping or as a
list of mappings with a single key.

* `Context.setVariables` : a context behind some assignments;
* `Context.Binds` : what the values of assignments are bound to, one behind the other.
-/

namespace Sluice

variable {ctx : Context} {entries done rest : List (String × Json)} {stored : Fields Json}

/-! ## Assignments behind each other -/

/-- Writes variables, one after the other. -/
def Context.setVariables (ctx : Context) (stored : Fields Json) : Context :=
  { ctx with assigned := Fields.overlay ctx.assigned stored }

/-- The entries can be bound one after the other: `stored` are their names with what their values
are bound to, each in the context in which exactly the entries before it have been stored. -/
structure Context.Binds (ctx : Context) (entries : List (String × Json)) (stored : Fields Json) :
    Prop where
  length : stored.length = entries.length
  bound : ∀ i name raw, entries[i]? = some (name, raw) → ∃ v, stored[i]? = some (name, v) ∧
    Binding.value (ctx.setVariables (stored.take i)).view raw = .ok v

/-- Some entry is the first one that cannot be bound; `stored` are those before it. -/
def Context.FailsBehind (ctx : Context) (entries : List (String × Json)) (stored : Fields Json)
    (e : EvalError) : Prop :=
  ∃ done name raw rest, entries = done ++ (name, raw) :: rest ∧ ctx.Binds done stored ∧
    Binding.value (ctx.setVariables stored).view raw = .error e

namespace Context.Binds

theorem nil (ctx : Context) : ctx.Binds [] [] := ⟨rfl, fun i name raw h => by simp at h⟩

/-- The first entry is bound in the context itself, and the others behind it. -/
theorem cons {name : String} {raw v : Json} (hv : Binding.value ctx.view raw = .ok v)
    (h : (ctx.setVariable name v).Binds rest stored) :
    ctx.Binds ((name, raw) :: rest) ((name, v) :: stored) := by
  refine ⟨by simp [h.length], fun i name' raw' hi => ?_⟩
  cases i with
  | zero =>
    cases hi
    exact ⟨v, rfl, hv⟩
  | succ i => exact h.bound i name' raw' hi

theorem exists_of_cons {name : String} {raw : Json} (h : ctx.Binds ((name, raw) :: rest) stored) :
    ∃ v later, stored = (name, v) :: later ∧ Binding.value ctx.view raw = .ok v ∧
      (ctx.setVariable name v).Binds rest later := by
  obtain ⟨v, hget, hv⟩ := h.bound 0 name raw rfl
  cases stored with
  | nil => cases hget
  | cons first later =>
    cases hget
    exact ⟨v, later, rfl, hv, Nat.succ.inj h.length, fun i => h.bound (i + 1)⟩

end Context.Binds

/-- All entries can be bound, or there is a first one that cannot. -/
theorem Context.exists_binds (ctx : Context) (entries : List (String × Json)) :
    (∃ stored, ctx.Binds entries stored) ∨ ∃ stored e, ctx.FailsBehind entries stored e := by
  induction entries generalizing ctx with
  | nil => exact .inl ⟨[], .nil ctx⟩
  | cons entry rest ih =>
    obtain ⟨name, raw⟩ := entry
    cases hv : Binding.value ctx.view raw with
    | error e => exact .inr ⟨[], e, [], name, raw, rest, rfl, .nil ctx, hv⟩
    | ok v =>
      rcases ih (ctx.setVariable name v) with
        ⟨stored, h⟩ | ⟨stored, e, done, name', raw', rest', rfl, h, he⟩
      · exact .inl ⟨(name, v) :: stored, h.cons hv⟩
      · exact .inr ⟨(name, v) :: stored, e, (name, raw) :: done, name', raw', rest', rfl,
          h.cons hv, he⟩

/-- Entries that can be bound are stored, and the others are done behind them. -/
theorem assign_append_run (h : ctx.Binds done stored) (rest : List (String × Json)) :
    (assign (done ++ rest)).run ctx =
      let r := (assign rest).run (ctx.setVariables stored)
      ⟨r.value, r.context, stored.map (fun entry => .variableSet entry.1 entry.2) ++ r.events⟩ := by
  induction done generalizing ctx stored with
  | nil =>
    obtain rfl := List.length_eq_zero_iff.1 h.length
    rfl
  | cons entry done ih =>
    obtain ⟨name, raw⟩ := entry
    obtain ⟨v, later, rfl, hv, hlater⟩ := h.exists_of_cons
    rw [List.cons_append, assign_cons_run, hv]
    dsimp only
    rw [ih hlater]
    rfl

theorem assign_run_of_binds (h : ctx.Binds entries stored) :
    (assign entries).run ctx = ⟨.ok (), ctx.setVariables stored,
      stored.map fun entry => .variableSet entry.1 entry.2⟩ := by
  have hrun := assign_append_run h []
  rw [List.append_nil] at hrun
  rw [hrun]
  exact congrArg (Report.mk _ _) (List.append_nil _)

/-- Nothing is stored from the first entry on that cannot be bound. -/
theorem assign_run_of_failsBehind {e : EvalError} (h : ctx.FailsBehind entries stored e) :
    (assign entries).run ctx = ⟨.error (.unbound "variable" e), ctx.setVariables stored,
      stored.map fun entry => .variableSet entry.1 entry.2⟩ := by
  obtain ⟨done, name, raw, rest, rfl, hdone, he⟩ := h
  rw [assign_append_run hdone, assign_cons_run, he]
  exact congrArg (Report.mk _ _) (List.append_nil _)

/-! ## The two forms -/

theorem Draft.singleEntries_map (index : Nat) (fields : Fields Json) :
    singleEntries index (fields.map fun field => .map [field]) = .ok fields := by
  induction fields generalizing index with
  | nil => rfl
  | cons field rest ih => simp [singleEntries, ih, bind, Except.bind, pure, Except.pure]

/-- A mapping and the list of its entries are the same assignments. -/
theorem Draft.add_variable_list (known : String → Bool) (d : Draft) (fields : Fields Json) :
    d.add known "variable" (.list (fields.map fun field => .map [field])) =
      d.add known "variable" (.map fields) := by
  simp [add, assignments, singleEntries_map]

namespace Config

section Reading

variable {m : Type → Type} [Monad m] [MonadExceptOf LoadError m] {known : String → Bool}
  {key : String} {value value' : Json}

/-- Values of a directive that a draft takes in alike are read alike, whatever stands beside. -/
theorem readDirectives_congr (hkey : key ≠ "pipe")
    (h : ∀ d : Draft, d.add known key value = d.add known key value') (splice : Splice m Step)
    (position : Position) (before after : Fields Json) (d : Draft) :
    readDirectives known splice position d (before ++ (key, value) :: after) =
      readDirectives known splice position d (before ++ (key, value') :: after) := by
  induction before generalizing d with
  | nil => simp only [List.nil_append, readDirectives, if_neg hkey, h]
  | cons field before ih =>
    obtain ⟨key', value''⟩ := field
    simp only [List.cons_append, readDirectives, ih]

theorem readStep_congr (hpipe : key ≠ "pipe") (hinclude : key ≠ "include")
    (h : ∀ d : Draft, d.add known key value = d.add known key value') (splice : Splice m Step)
    (position : Position) (before after : Fields Json) :
    readStep known splice position (.map (before ++ (key, value) :: after)) =
      readStep known splice position (.map (before ++ (key, value') :: after)) := by
  have hget : Fields.get? "include" (before ++ (key, value) :: after) =
      Fields.get? "include" (before ++ (key, value') :: after) := by
    simp only [Fields.get?_append, Fields.get?, if_neg hinclude]
  simp only [readStep, hget, alone, List.length_append, List.length_cons,
    readDirectives_congr hpipe h]

end Reading

end Config

/-! ## Steps that assign -/

section Steps

variable {registry : Registry} {control : Control} {position : Position}

theorem Step.run_assign_of_binds (hopens : control.opens ctx = .ok true)
    (h : ctx.Binds entries stored) :
    (Step.valid position control (.assign entries)).run registry ctx =
      ⟨true, { ctx.setVariables stored with result := true },
        .stepStarted position :: stored.map (fun entry => .variableSet entry.1 entry.2) ++
          [.stepFinished position (control.name.getD position.text) true]⟩ := by
  rw [Step.run_of_opens position _ hopens, Content.run_assign, assign_run_of_binds h]
  rfl

theorem Step.run_assign_of_failsBehind {e : EvalError} (hopens : control.opens ctx = .ok true)
    (h : ctx.FailsBehind entries stored e) :
    (Step.valid position control (.assign entries)).run registry ctx =
      ⟨false, { ctx.setVariables stored with result := false },
        .stepStarted position :: stored.map (fun entry => .variableSet entry.1 entry.2) ++
          [.stepFailed position (control.name.getD position.text) (.unbound "variable" e),
            .stepFinished position (control.name.getD position.text) false]⟩ := by
  rw [Step.run_of_opens position _ hopens, Content.run_assign, assign_run_of_failsBehind h]
  rfl

/-- A step with assignments whose guard opens stores the variables in order, each one bound behind
those before it.  It is true if all can be bound; otherwise it is false, and exactly the variables
before the first one that cannot be bound have been stored.  Nothing else changes.  Of a repeated
name the last value stays, and names that have been there keep their places.  Both forms of the
assignments are the same step. -/
theorem Step.run_assign_in_order (registry : Registry) (position : Position)
    (entries : List (String × Json)) (hopens : control.opens ctx = .ok true) :
    let r := (Step.valid position control (.assign entries)).run registry ctx
    (∀ stored, ctx.Binds entries stored →
      r.value = true ∧ r.context = { ctx.setVariables stored with result := true }) ∧
    (∀ stored e, ctx.FailsBehind entries stored e →
      r.value = false ∧ r.context = { ctx.setVariables stored with result := false }) ∧
    ((∃ stored, ctx.Binds entries stored) ∨ ∃ stored e, ctx.FailsBehind entries stored e) ∧
    (r.context.registered = ctx.registered ∧ r.context.request = ctx.request ∧
      r.context.defaults = ctx.defaults) ∧
    (∀ stored,
      (∀ name, (ctx.setVariables stored).getVariable? name =
        (Fields.get? name stored.reverse).or (ctx.getVariable? name)) ∧
      (ctx.setVariables stored).assigned.keys = ctx.assigned.keys ++
        ((Fields.keys stored).filter (· ∉ ctx.assigned.keys)).eraseDups) ∧
    ∀ (known : String → Bool) (splice : Config.Splice Loading Step)
      (before fields after : Fields Json),
      Config.readStep known splice position
          (.map (before ++ ("variable", .list (fields.map fun field => .map [field])) :: after)) =
        Config.readStep known splice position
          (.map (before ++ ("variable", .map fields) :: after)) := by
  intro r
  refine ⟨fun stored h => ?_, fun stored e h => ?_, ctx.exists_binds entries, ?_,
    fun stored => ⟨fun name => ?_, ?_⟩, fun known splice before fields after => ?_⟩
  · rw [show r = _ from Step.run_assign_of_binds hopens h]
    exact ⟨rfl, rfl⟩
  · rw [show r = _ from Step.run_assign_of_failsBehind hopens h]
    exact ⟨rfl, rfl⟩
  · rcases ctx.exists_binds entries with ⟨stored, h⟩ | ⟨stored, e, h⟩
    · rw [show r = _ from Step.run_assign_of_binds hopens h]
      exact ⟨rfl, rfl, rfl⟩
    · rw [show r = _ from Step.run_assign_of_failsBehind hopens h]
      exact ⟨rfl, rfl, rfl⟩
  -- the last assignment of a name counts, but its first one gives the place
  · exact Fields.get?_overlay_of_last ctx.assigned stored name
  · exact Fields.keys_overlay_of_first ctx.assigned stored
  · exact Config.readStep_congr (by decide) (by decide)
      (fun d => d.add_variable_list known fields) splice position before after

/-- The third assignment reads what the second one has changed, and writes the name of the first
one again; the fourth one fails, and the fifth one is never done. -/
theorem Step.run_assign_in_order_repeated :
    let ctx := Context.empty.setVariable "a" (.bool false)
    let control : Control := ⟨none, some (.text "=!V.a"), none, none⟩
    let entries : List (String × Json) := [("b", .string "=V.a"), ("a", .bool true),
      ("b", .string "=V.a"), ("c", .string "=V.missing"), ("d", .null)]
    let r := (Step.valid ⟨"steps", []⟩ control (.assign entries)).run .empty ctx
    control.opens ctx = .ok true ∧ r.value = false ∧
    r.context.assigned = [("a", .bool true), ("b", .bool true)] := by
  intro ctx control entries r
  have hopens : control.opens ctx = .ok true := by cbv
  have h : ctx.FailsBehind entries [("b", .bool false), ("a", .bool true), ("b", .bool true)]
      (.pathNotFound "V.missing") := by
    refine ⟨entries.take 3, "c", .string "=V.missing", [("d", .null)], rfl,
      .cons ?_ (.cons rfl (.cons ?_ (.nil _))), ?_⟩ <;> cbv
  obtain ⟨hvalue, hcontext⟩ :=
    (Step.run_assign_in_order .empty ⟨"steps", []⟩ entries hopens).2.1 _ _ h
  exact ⟨hopens, hvalue, congrArg Context.assigned hcontext⟩

end Steps

end Sluice
