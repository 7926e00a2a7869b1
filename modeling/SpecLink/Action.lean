import SpecLink.Failure

/-!
# Actions on a state

An action reads and changes a state and may fail. What it did to the state before it failed stays
done. Main statements: what each way of building an action does to a state (`on_bind` and the
lemmas beside it).
-/
namespace SpecLink

abbrev Action (σ α : Type) := ExceptT Failure (StateM σ) α

namespace Action

variable {σ τ α β : Type}

/-- The answer of an action on a state, and the state afterwards. -/
def on (action : Action σ α) (state : σ) : Except Failure α × σ :=
  StateT.run (ExceptT.run action) state

/-- The action with the given effect. -/
def ofFunction (effect : σ → Except Failure α × σ) : Action σ α :=
  ExceptT.mk fun state => effect state

/-- Answers with a result that is already known. -/
def ofExcept (result : Except Failure α) : Action σ α := ofFunction fun state => (result, state)

/-- Answers with the result of an action and goes on if it fails. -/
def attempt (action : Action σ α) : Action σ (Except Failure α) :=
  ofFunction fun state =>
    let (answer, changed) := action.on state
    (.ok answer, changed)

/-- An action on a part of a larger state. -/
def within (part : τ → σ) (replace : τ → σ → τ) (action : Action σ α) : Action τ α :=
  ofFunction fun whole =>
    let (answer, changed) := action.on (part whole)
    (answer, replace whole changed)

@[simp] theorem on_pure (a : α) (s : σ) : (pure a : Action σ α).on s = (.ok a, s) := rfl

@[simp] theorem on_throw (failure : Failure) (s : σ) :
    (throw failure : Action σ α).on s = (.error failure, s) := rfl

@[simp] theorem on_get (s : σ) : (get : Action σ σ).on s = (.ok s, s) := rfl

@[simp] theorem on_set (s t : σ) : (set t : Action σ PUnit).on s = (.ok ⟨⟩, t) := rfl

@[simp] theorem on_modify (change : σ → σ) (s : σ) :
    (modify change : Action σ PUnit).on s = (.ok ⟨⟩, change s) := rfl

@[simp] theorem on_ofFunction (effect : σ → Except Failure α × σ) (s : σ) :
    (ofFunction effect).on s = effect s := rfl

@[simp] theorem on_ofExcept (result : Except Failure α) (s : σ) :
    (ofExcept result : Action σ α).on s = (result, s) := rfl

@[simp] theorem on_attempt (action : Action σ α) (s : σ) :
    action.attempt.on s = (.ok (action.on s).1, (action.on s).2) := rfl

@[simp] theorem on_within (part : τ → σ) (replace : τ → σ → τ) (action : Action σ α) (t : τ) :
    (action.within part replace).on t =
      ((action.on (part t)).1, replace t (action.on (part t)).2) := rfl

/-- The second of two actions runs on the state that the first leaves, unless the first fails. -/
theorem on_bind (action : Action σ α) (next : α → Action σ β) (s : σ) :
    (action >>= next).on s =
      match action.on s with
      | (.ok a, t) => (next a).on t
      | (.error failure, t) => (.error failure, t) := by
  simp only [on, ExceptT.run_bind, StateT.run_bind]
  cases h : StateT.run (ExceptT.run action) s with
  | mk answer t => cases answer <;> rfl

end Action

end SpecLink
