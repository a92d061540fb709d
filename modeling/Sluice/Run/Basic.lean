import Sluice.Run.Event

/-!
# Runs

A run starts in a context and leaves a value, a context and what has happened, in order.  Runs
follow each other: the second one starts where the first one has ended.  `Attempt`s are runs that
may fail; what has been done before the failure stays done.
-/

namespace Sluice

/-- What a run leaves. -/
structure Report (α : Type) where
  value : α
  context : Context
  events : List Event

/-- Something that runs in a context. -/
def Run (α : Type) : Type := Context → Report α

/-- Something that runs in a context and may fail. -/
abbrev Attempt (α : Type) : Type := ExceptT StepError Run α

namespace Run

variable {α β γ : Type}

instance : Monad Run where
  pure a := fun ctx => ⟨a, ctx, []⟩
  bind x f := fun ctx =>
    let r := x ctx
    let s := f r.value r.context
    ⟨s.value, s.context, r.events ++ s.events⟩

def context : Run Context := fun ctx => ⟨ctx, ctx, []⟩

def update (f : Context → Context) : Run Unit := fun ctx => ⟨(), f ctx, []⟩

def note (e : Event) : Run Unit := fun ctx => ⟨(), ctx, [e]⟩

def noteAll (es : List Event) : Run Unit := fun ctx => ⟨(), ctx, es⟩

@[simp] theorem pure_apply (a : α) (ctx : Context) : (pure a : Run α) ctx = ⟨a, ctx, []⟩ := rfl

@[simp] theorem bind_apply (x : Run α) (f : α → Run β) (ctx : Context) :
    (x >>= f) ctx = ⟨(f (x ctx).value (x ctx).context).value,
      (f (x ctx).value (x ctx).context).context,
      (x ctx).events ++ (f (x ctx).value (x ctx).context).events⟩ := rfl

@[simp] theorem context_apply (ctx : Context) : context ctx = ⟨ctx, ctx, []⟩ := rfl

@[simp] theorem update_apply (f : Context → Context) (ctx : Context) :
    update f ctx = ⟨(), f ctx, []⟩ := rfl

@[simp] theorem note_apply (e : Event) (ctx : Context) : note e ctx = ⟨(), ctx, [e]⟩ := rfl

@[simp] theorem noteAll_apply (es : List Event) (ctx : Context) : noteAll es ctx = ⟨(), ctx, es⟩ :=
  rfl

instance : LawfulMonad Run := LawfulMonad.mk' Run
  (by
    intro α x
    funext ctx
    exact congrArg (Report.mk (x ctx).value (x ctx).context) (List.append_nil _))
  (by intro α β a f; funext ctx; simp)
  (by intro α β γ x f g; funext ctx; simp)

end Run

end Sluice
