import Sluice.Proofs.Loading.Basic

/-!
# Readings that agree

Relations between the reading of something and the reading of what it is flattened to:

* `Agrees` — both fail, or both succeed with values that look the same;
* `Flattens` — the first fails if there is nothing flat, and otherwise they agree;
* `Keeps` — if the first succeeds there is something flat, and the second gives the same.

Each goes through a sequence of readings.
-/

namespace Sluice

namespace Loading

variable {α β γ δ : Type}

/-- Two readings that both fail or both give values that look the same.  The second one opens no
files. -/
def Agrees (view : α → γ) (x y : Loading α) : Prop :=
  ∀ o o', (¬ Succeeds x o ∧ ¬ Succeeds y o') ∨
    ∃ a b o₁, x.run o = .ok (a, o₁) ∧ y.run o' = .ok (b, o') ∧ view a = view b

theorem agrees_pure {view : α → γ} {a b : α} (h : view a = view b) :
    Agrees view (pure a) (pure b) :=
  fun o _ => .inr ⟨a, b, o, rfl, rfl, h⟩

theorem agrees_refuse {view : α → γ} (position position' : Position) (flaw flaw' : DocumentFlaw) :
    Agrees view (position.refuse flaw) (position'.refuse flaw') :=
  fun o o' => .inl ⟨not_succeeds_refuse position flaw o, not_succeeds_refuse position' flaw' o'⟩

theorem not_succeeds_bind {x : Loading α} {f : α → Loading β} {o : List Opening}
    (h : ∀ a o₁, x.run o = .ok (a, o₁) → ¬ Succeeds (f a) o₁) : ¬ Succeeds (x >>= f) o := by
  rintro ⟨⟨b, o'⟩, hr⟩
  obtain ⟨a, o₁, hx, hf⟩ := run_bind_eq_ok.1 hr
  exact h a o₁ hx ⟨_, hf⟩

theorem Agrees.bind {view : α → γ} {view' : β → δ} {x y : Loading α} {f g : α → Loading β}
    (h : Agrees view x y) (hf : ∀ a b, view a = view b → Agrees view' (f a) (g b)) :
    Agrees view' (x >>= f) (y >>= g) := by
  intro o o'
  obtain ⟨hx, hy⟩ | ⟨a, b, o₁, hx, hy, hab⟩ := h o o'
  · exact .inl ⟨not_succeeds_bind fun a o₁ hr => absurd ⟨_, hr⟩ hx,
      not_succeeds_bind fun a o₁ hr => absurd ⟨_, hr⟩ hy⟩
  · obtain ⟨hfa, hgb⟩ | ⟨c, d, o₂, hfa, hgb, hcd⟩ := hf a b hab o₁ o'
    · refine .inl ⟨not_succeeds_bind fun a' o₁' hr => ?_, not_succeeds_bind fun b' o₁' hr => ?_⟩
      · rw [hx] at hr
        cases hr
        exact hfa
      · rw [hy] at hr
        cases hr
        exact hgb
    · exact .inr ⟨c, d, o₂, run_bind_eq_ok.2 ⟨a, o₁, hx, hfa⟩, run_bind_eq_ok.2 ⟨b, o', hy, hgb⟩,
        hcd⟩

/-- A reading that fails where there is nothing flat, and otherwise agrees with the reading of what
is flat. -/
def Flattens (view : α → γ) (flat : Option β) (x : Loading α) (y : β → Loading α) : Prop :=
  match flat with
  | none => ∀ o, ¬ Succeeds x o
  | some f => Agrees view x (y f)

namespace Flattens

variable {φ ψ χ : Type} {view : α → γ} {view' : β → δ} {flat : Option φ} {flat' : Option ψ}
  {x : Loading α} {y : φ → Loading α}

/-- What follows a reading has nothing to flatten. -/
theorem andThen {f g : α → Loading β} (h : Flattens view flat x y)
    (hf : ∀ a b, view a = view b → Agrees view' (f a) (g b)) :
    Flattens view' flat (x >>= f) (fun v => y v >>= g) := by
  cases flat with
  | none => exact fun o => not_succeeds_bind fun a o₁ hr => absurd ⟨_, hr⟩ (h o)
  | some v => exact Agrees.bind h hf

/-- What precedes a reading has nothing to flatten. -/
theorem after {x₀ y₀ : Loading β} {f : β → Loading α} {g : β → φ → Loading α}
    (h₀ : Agrees view' x₀ y₀) (h : ∀ a b, view' a = view' b → Flattens view flat (f a) (g b)) :
    Flattens view flat (x₀ >>= f) (fun v => y₀ >>= fun b => g b v) := by
  cases flat with
  | none => exact fun o => not_succeeds_bind fun a o₁ _ => h a a rfl o₁
  | some v => exact Agrees.bind h₀ h

/-- What precedes a reading is known to succeed. -/
theorem afterRun {x₀ : Loading β} {f : β → Loading α} {b : β} {more : List Opening}
    (h₀ : ∀ o, x₀.run o = .ok (b, o ++ more)) (h : Flattens view flat (f b) y) :
    Flattens view flat (x₀ >>= f) y := by
  have hrun : ∀ o, (x₀ >>= f).run o = (f b).run (o ++ more) := by
    intro o
    rw [StateT.run_bind, h₀]
    rfl
  cases flat with
  | none =>
    intro o hsucceeds
    rw [Succeeds, hrun] at hsucceeds
    exact h _ hsucceeds
  | some v =>
    intro o o'
    rw [Succeeds, hrun]
    exact h (o ++ more) o'

/-- What is flat becomes a part of something else. -/
theorem image {k : φ → χ} {z : χ → Loading α} (h : Flattens view flat x y)
    (hz : ∀ v, flat = some v → z (k v) = y v) : Flattens view (do return k (← flat)) x z := by
  cases flat with
  | none => exact h
  | some v =>
    change Agrees view x (z (k v))
    rw [hz v rfl]
    exact h

/-- One part is flattened after the other. -/
theorem bind {f : α → Loading β} {g : φ → α → ψ → Loading β} {k : φ → ψ → χ} {z : χ → Loading β}
    (h : Flattens view flat x y)
    (hf : ∀ v a b, view a = view b → Flattens view' flat' (f a) (g v b))
    (hz : ∀ v w, z (k v w) = y v >>= fun b => g v b w) :
    Flattens view' (do return k (← flat) (← flat')) (x >>= f) z := by
  cases flat with
  | none => exact fun o => not_succeeds_bind fun a o₁ hr => absurd ⟨_, hr⟩ (h o)
  | some v =>
    cases flat' with
    | none => exact fun o => not_succeeds_bind fun a o₁ _ => hf v a a rfl o₁
    | some w =>
      change Agrees view' (x >>= f) (z (k v w))
      rw [hz]
      exact Agrees.bind h fun a b hab => hf v a b hab

end Flattens

section Keeps

variable {φ ψ χ : Type} {same : α → β → Prop} {flat : Option φ} {x : Loading α} {y : φ → Loading β}

/-- A reading that fails where there is nothing flat, and whose value, if it succeeds, is the same
as the one that the reading of what is flat gives.  The second reading opens no files. -/
def Keeps (same : α → β → Prop) (flat : Option φ) (x : Loading α) (y : φ → Loading β) : Prop :=
  ∀ o a o₁, x.run o = .ok (a, o₁) →
    ∃ v, flat = some v ∧ ∀ o', ∃ b, (y v).run o' = .ok (b, o') ∧ same a b

theorem Flattens.keeps {view : α → γ} {y : φ → Loading α} (h : Flattens view flat x y) :
    Keeps (fun a b => view a = view b) flat x y := by
  intro o a o₁ hx
  cases flat with
  | none => exact absurd ⟨_, hx⟩ (h o)
  | some v =>
    refine ⟨v, rfl, fun o' => ?_⟩
    obtain ⟨hfail, -⟩ | ⟨a', b, o₂, hx', hy, hab⟩ := h o o'
    · exact absurd ⟨_, hx⟩ hfail
    · rw [hx] at hx'
      cases hx'
      exact ⟨b, hy, hab⟩

theorem keeps_of_not_succeeds (h : ∀ o, ¬ Succeeds x o) : Keeps same flat x y :=
  fun o _ _ hx => absurd ⟨_, hx⟩ (h o)

namespace Keeps

/-- What is made of a value afterwards. -/
theorem mapValue {same' : γ → β → Prop} {f : α → γ} (h : Keeps same flat x y)
    (hf : ∀ a b, same a b → same' (f a) b) : Keeps same' flat (x >>= fun a => pure (f a)) y := by
  intro o c o₁ hr
  obtain ⟨a, o₂, hx, hr⟩ := run_bind_eq_ok.1 hr
  cases hr
  obtain ⟨v, hv, hy⟩ := h o a _ hx
  refine ⟨v, hv, fun o' => ?_⟩
  obtain ⟨b, hb, hab⟩ := hy o'
  exact ⟨b, hb, hf a b hab⟩

/-- One part is flattened after the other. -/
theorem append {α' β' : Type} {same' : α' → β' → Prop} {same'' : γ → δ → Prop} {flat' : Option ψ}
    {x' : Loading α'} {y' : φ → ψ → Loading β'} {f : α → α' → γ} {g : β → β' → δ} {k : φ → ψ → χ}
    {z : χ → Loading δ} (h : Keeps same flat x y) (h' : ∀ v, Keeps same' flat' x' (y' v))
    (hfg : ∀ a b a' b', same a b → same' a' b' → same'' (f a a') (g b b'))
    (hz : ∀ v w, z (k v w) = do return g (← y v) (← y' v w)) :
    Keeps same'' (do return k (← flat) (← flat')) (do return f (← x) (← x')) z := by
  intro o c o₁ hr
  obtain ⟨a, o₂, hx, hr⟩ := run_bind_eq_ok.1 hr
  obtain ⟨a', o₃, hx', hr⟩ := run_bind_eq_ok.1 hr
  cases hr
  obtain ⟨v, rfl, hy⟩ := h o a o₂ hx
  obtain ⟨w, rfl, hy'⟩ := h' v o₂ a' _ hx'
  refine ⟨k v w, rfl, fun o' => ?_⟩
  obtain ⟨b, hb, hab⟩ := hy o'
  obtain ⟨b', hb', hab'⟩ := hy' o'
  refine ⟨g b b', ?_, hfg a b a' b' hab hab'⟩
  rw [hz]
  exact run_bind_eq_ok.2 ⟨b, o', hb, run_bind_eq_ok.2 ⟨b', o', hb', rfl⟩⟩

end Keeps

end Keeps

end Loading

end Sluice
