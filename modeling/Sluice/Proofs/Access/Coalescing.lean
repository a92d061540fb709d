import Sluice.Context
import Sluice.Proofs.Access.Queries

/-!
# What stands in for a missing value

`left ?? right` is the right side where the left one is null or absent.  A chain of keys behind `V`
can be written with dots, with quoted keys, or as a query.  Where all values on its way are maps the
first two are absent exactly if one of the keys is, and then the right side stands in for them.  A
query that finds nothing fails with an error of its own, for which nothing stands in.

* `Access.MapsAlong`: the values on the way of a chain are maps.
* `Access.Way`: how a chain is written.
-/

namespace Sluice

namespace Expr

/-! ## Left sides -/

variable {view : View} {subject : Option Json} {left right : Expr}

theorem eval_coalesce_of_ok {v : Json} (h : left.eval view subject = .ok v) (hv : v ≠ .null) :
    (Expr.binary .coalesce left right).eval view subject = .ok v := by
  rw [eval, h]
  cases v <;> first | rfl | exact absurd rfl hv

theorem eval_coalesce_of_null (h : left.eval view subject = .ok .null) :
    (Expr.binary .coalesce left right).eval view subject = right.eval view subject := by
  rw [eval, h]

theorem eval_coalesce_of_absence {e : EvalError} (h : left.eval view subject = .error e)
    (he : e.isAbsence = true) :
    (Expr.binary .coalesce left right).eval view subject = right.eval view subject := by
  rw [eval, h]
  exact if_pos he

theorem eval_coalesce_of_error {e : EvalError} (h : left.eval view subject = .error e)
    (he : e.isAbsence = false) :
    (Expr.binary .coalesce left right).eval view subject = .error e := by
  rw [eval, h]
  exact if_neg (Bool.eq_false_iff.1 he)

end Expr

/-! ## Chains of keys -/

namespace Access

/-- The values that keys are looked up in, one behind the other, are maps. -/
def MapsAlong : List Identifier → Json → Prop
  | [], _ => True
  | key :: keys, v => ∃ fields, v = .map fields ∧
    ∀ w, Fields.get? key.text fields = some w → MapsAlong keys w

/-- How a chain of keys is written: `V.a.b`, `V["a"]["b"]` or `$.V.a.b`. -/
inductive Way where
  | dotted | quoted | queried
deriving DecidableEq

/-- A chain of keys behind `V`. -/
def dotted (keys : List Identifier) : Access := ⟨.assigned, keys.map .name⟩

/-- A chain of quoted keys behind `V`. -/
def quoted (keys : List Identifier) : Access := ⟨.assigned, keys.map .quoted⟩

def Way.text (keys : List Identifier) : Way → String
  | .dotted => (Access.dotted keys).text
  | .quoted => (Access.quoted keys).text
  | .queried => (Access.dotted keys).query

def Way.tree (keys : List Identifier) : Way → Expr
  | .dotted => (Access.dotted keys).tree
  | .quoted => (Access.quoted keys).tree
  | .queried => .query (Access.dotted keys).query

/-- The value under a chain of keys. -/
def along? (keys : List Identifier) (v : Json) : Option Json := reach? (keys.map .name) v

theorem parse_way (way : Way) (keys : List Identifier) {source : String} {right : Expr}
    (h : Expr.Spells .or source right) :
    Expr.parse (way.text keys ++ " ?? " ++ source) =
      .ok (.binary .coalesce (way.tree keys) right) := by
  have hends : ∀ rest, Ends (' ' :: rest) := by
    intro rest c hc
    cases hc
    rfl
  cases way with
  | dotted =>
    have hderives := (Access.dotted keys).derives.loosen (l := .coalesce) (by decide)
    exact Expr.parse_coalesce (Access.dotted keys).lexes hends hderives h
  | quoted =>
    have hderives := (Access.quoted keys).derives.loosen (l := .coalesce) (by decide)
    exact Expr.parse_coalesce (Access.quoted keys).lexes hends hderives h
  | queried =>
    have hspaced : ∀ rest, Token.Spaced (' ' :: rest) := by
      intro rest c hc
      cases hc
      rfl
    have hderives := (Expr.Derives.query (Access.dotted keys).query).loosen (l := .coalesce)
      (by decide)
    have hparse := Expr.parse_coalesce (Access.dotted keys).lexes_query hspaced hderives h
    rwa [String.ofList_toList] at hparse

variable {view : View} {subject : Option Json} {keys : List Identifier} {e : Expr} {v : Json}

/-! ## Where they break off -/

theorem eval_hops_of_error (hops : List Hop) {refusal : EvalError}
    (h : e.eval view subject = .error refusal) :
    (hops.foldl Hop.behind e).eval view subject = .error refusal := by
  induction hops generalizing e with
  | nil => exact h
  | cons hop hops ih => exact ih (hop.eval_behind_of_error h)

/-- How a key of a chain is written behind an expression. -/
def IsKey (form : Identifier → Hop) : Prop := form = .name ∨ form = .quoted

/-- A key in a map is found or absent, in both ways of writing it. -/
theorem eval_key {form : Identifier → Hop} (hform : IsKey form) (key : Identifier)
    {fields : List (String × Json)} (h : e.eval view subject = .ok (.map fields)) :
    ((form key).behind e).eval view subject = (Fields.get? key.text fields).elim
      (.error (.pathNotFound ((form key).behind e).render)) .ok := by
  rcases hform with rfl | rfl
  · rw [Hop.behind, Expr.eval, h]
    show Expr.fieldOf e key.text (.map fields) = _
    rw [Expr.fieldOf]
    cases Fields.get? key.text fields <;> rfl
  · rw [Hop.behind, Expr.eval, h, Expr.eval]
    show Expr.elementOf _ (.map fields) (.string key.text) = _
    rw [Expr.elementOf]
    cases Fields.get? key.text fields <;> rfl

/-- A chain through maps has a value, or a key of it is absent. -/
theorem eval_keys {form : Identifier → Hop} (hform : IsKey form) (hmaps : MapsAlong keys v)
    (h : e.eval view subject = .ok v) :
    ∃ place, ((keys.map form).foldl Hop.behind e).eval view subject =
      (along? keys v).elim (.error (.pathNotFound place)) .ok := by
  induction keys generalizing e v with
  | nil => exact ⟨"", h⟩
  | cons key keys ih =>
    obtain ⟨fields, rfl, hmaps⟩ := hmaps
    have hkey := eval_key hform key h
    have halong : along? (key :: keys) (.map fields) =
        (Fields.get? key.text fields).bind (along? keys) := rfl
    rw [List.map_cons, List.foldl_cons, halong]
    cases hfound : Fields.get? key.text fields with
    | none =>
      rw [hfound] at hkey
      exact ⟨_, eval_hops_of_error _ hkey⟩
    | some w =>
      rw [hfound] at hkey
      exact ih (hmaps w hfound) hkey

theorem eval_way (way : Way) (hway : way ≠ .queried) (hmaps : MapsAlong keys view.assigned) :
    ∃ place, (way.tree keys).eval view none =
      (along? keys view.assigned).elim (.error (.pathNotFound place)) .ok := by
  have hroot : (Expr.ident Root.assigned.key.text).eval view none = .ok view.assigned := rfl
  cases way with
  | dotted => exact eval_keys (.inl rfl) hmaps hroot
  | quoted => exact eval_keys (.inr rfl) hmaps hroot
  | queried => exact absurd rfl hway

theorem eval_queried (keys : List Identifier) :
    (Way.queried.tree keys).eval view none = (along? keys view.assigned).elim
      (.error (.query (Way.queried.text keys) .noMatch)) .ok :=
  (Access.dotted keys).eval_query view

/-- A chain through maps has the value that it leads to, in all ways of writing it. -/
theorem eval_way_of_found (way : Way) (hmaps : MapsAlong keys view.assigned)
    (hv : along? keys view.assigned = some v) : (way.tree keys).eval view none = .ok v := by
  by_cases hway : way = .queried
  · rw [hway, eval_queried, hv]
    rfl
  · obtain ⟨place, heval⟩ := eval_way way hway hmaps
    rw [heval, hv]
    rfl

/-- What was found, if it is not null; otherwise what stands in for it. -/
def standIn (found : Option Json) (other : Except EvalError Json) : Except EvalError Json :=
  match found with
  | none => other
  | some .null => other
  | some v => .ok v

theorem eval_coalesce_way (way : Way) (right : Expr) (hmaps : MapsAlong keys view.assigned)
    (hway : along? keys view.assigned = none → way ≠ .queried) :
    (Expr.binary .coalesce (way.tree keys) right).eval view none =
      standIn (along? keys view.assigned) (right.eval view none) := by
  cases hfound : along? keys view.assigned with
  | none =>
    obtain ⟨place, heval⟩ := eval_way way (hway hfound) hmaps
    rw [hfound] at heval
    exact Expr.eval_coalesce_of_absence heval rfl
  | some v =>
    have heval := eval_way_of_found way hmaps hfound
    by_cases hnull : v = .null
    · subst hnull
      exact Expr.eval_coalesce_of_null heval
    · rw [Expr.eval_coalesce_of_ok heval hnull]
      cases v <;> first | rfl | exact absurd rfl hnull

theorem eval_coalesce_queried (right : Expr) (hfound : along? keys view.assigned = none) :
    (Expr.binary .coalesce (Way.queried.tree keys) right).eval view none =
      .error (.query (Way.queried.text keys) .noMatch) := by
  have heval : (Way.queried.tree keys).eval view none = _ := eval_queried keys
  rw [hfound] at heval
  exact Expr.eval_coalesce_of_error heval rfl

/-- Behind `V` and a chain of keys whose values on the way are maps, `??` stands in for a null and
for an absent key, whatever is on its right side and however the chain is written, but for one case:
a query for an absent key keeps its error.  A text with `??` between a chain and an operand means
just this. -/
theorem coalesces_along (ctx : Context) (keys : List Identifier)
    (hmaps : MapsAlong keys (.map ctx.assigned)) :
    (∀ (way : Way) (right : Expr),
      (along? keys (.map ctx.assigned) = none → way ≠ .queried) →
      (Expr.binary .coalesce (way.tree keys) right).eval ctx.view none =
        standIn (along? keys (.map ctx.assigned)) (right.eval ctx.view none)) ∧
    (∀ right : Expr, along? keys (.map ctx.assigned) = none →
      (Expr.binary .coalesce (Way.queried.tree keys) right).eval ctx.view none =
        .error (.query (Way.queried.text keys) .noMatch)) ∧
    ∀ (way : Way) (source : String) (right : Expr), Expr.Spells .or source right →
      Expr.evaluate ctx.view ("=" ++ (way.text keys ++ " ?? " ++ source)) =
        (Expr.binary .coalesce (way.tree keys) right).eval ctx.view none := by
  refine ⟨fun way right hway => ?_, fun right hfound => ?_, fun way source right hright => ?_⟩
  · exact eval_coalesce_way way right hmaps hway
  · exact eval_coalesce_queried right hfound
  · exact Expr.evaluate_of_parse (parse_way way keys hright) ctx.view

/-- A query for a null, with a number on the right side. -/
theorem coalesces_along_to_null :
    let a : Identifier := ⟨'a', [], rfl, List.forall_mem_nil _⟩
    let b : Identifier := ⟨'b', ['2'], rfl, List.forall_mem_singleton.2 rfl⟩
    let ctx := Context.empty.setVariable "a" (.map [("b2", .null)])
    MapsAlong [a, b] (.map ctx.assigned) ∧
      Expr.Spells .or "1" (.literal (.nat 1)) ∧
      Expr.evaluate ctx.view "=$.V.a.b2 ?? 1" = .ok (.nat 1) := by
  intro a b ctx
  have hmaps : MapsAlong [a, b] (.map ctx.assigned) := by
    refine ⟨_, rfl, fun v hv => ?_⟩
    cases hv
    exact ⟨_, rfl, fun _ _ => trivial⟩
  have hone : Expr.Spells .or "1" (.literal (.nat 1)) := by
    refine ⟨[⟨.number (.ofNat 1), 0⟩], 1, by cbv, ?_⟩
    exact (Expr.Derives.number (.ofNat 1)).loosen (by decide)
  obtain ⟨hcoalesce, -, htext⟩ := coalesces_along ctx [a, b] hmaps
  have hsource := htext .queried "1" (.literal (.nat 1)) hone
  have hfound : along? [a, b] (.map ctx.assigned) = some .null := by cbv
  rw [hcoalesce .queried _ (by simp [hfound]), hfound] at hsource
  exact ⟨hmaps, hone, hsource⟩

/-- Nothing stands in for what a query does not find, although it stands in for the same key behind
a dot and in brackets. -/
theorem queried_refuses_coalescing :
    MapsAlong [⟨'a', [], rfl, List.forall_mem_nil _⟩] (.map Context.empty.assigned) ∧
    Expr.evaluate Context.empty.view "=V.a ?? 1" = .ok (.nat 1) ∧
    Expr.evaluate Context.empty.view "=V[\"a\"] ?? 1" = .ok (.nat 1) ∧
    Expr.evaluate Context.empty.view "=$.V.a ?? 1" = .error (.query "$.V.a" .noMatch) := by
  refine ⟨⟨[], rfl, fun _ _ => trivial⟩, by cbv, by cbv, by cbv⟩

end Access

end Sluice
