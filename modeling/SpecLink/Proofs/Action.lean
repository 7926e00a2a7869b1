import SpecLink.Action

/-!
# What actions keep

Three ways to speak of an action without opening it: it keeps a property of the state whatever it
comes to (`Preserves`), it also fails only in a given way (`FailsOnly`), or it does not meet a change
of the state (`Commutes`). Main statements: each passes from the parts of an action to the whole
(`preserves_bind`, `failsOnly_bind`, `commutes_bind`).
-/
namespace SpecLink

/-- A step followed by another answers exactly if both do. -/
theorem bind_ok_iff {ε α β : Type} (first : Except ε α) (next : α → Except ε β) (b : β) :
    (first >>= next) = .ok b ↔ ∃ a, first = .ok a ∧ next a = .ok b := by
  cases first <;> simp [Bind.bind, Except.bind]

theorem bind_error_iff {ε α β : Type} (first : Except ε α) (next : α → Except ε β) (e : ε) :
    (first >>= next) = .error e ↔ first = .error e ∨ ∃ a, first = .ok a ∧ next a = .error e := by
  cases first <;> simp [Bind.bind, Except.bind]

theorem map_ok_iff {ε α β : Type} (result : Except ε α) (f : α → β) (b : β) :
    result.map f = .ok b ↔ ∃ a, result = .ok a ∧ f a = b := by
  cases result <;> simp [Except.map]

theorem map_error_iff {ε α β : Type} (result : Except ε α) (f : α → β) (e : ε) :
    result.map f = .error e ↔ result = .error e := by
  cases result <;> simp [Except.map]

/-- Each result of a traversal comes of some item. -/
theorem exists_of_mem_mapM {ε α β : Type} {f : α → Except ε β} {items : List α} {results : List β}
    (traversed : items.mapM f = .ok results) :
    ∀ b ∈ results, ∃ a ∈ items, f a = .ok b := by
  induction items generalizing results with
  | nil =>
    obtain rfl : [] = results := Except.ok.inj traversed
    exact fun b member => absurd member List.not_mem_nil
  | cons first rest ih =>
    rw [List.mapM_cons, bind_ok_iff] at traversed
    obtain ⟨b, here, traversed⟩ := traversed
    obtain ⟨others, there, same⟩ := (bind_ok_iff _ _ _).1 traversed
    obtain rfl : b :: others = results := Except.ok.inj same
    intro c member
    rcases List.mem_cons.1 member with rfl | member
    · exact ⟨first, List.mem_cons_self, here⟩
    · obtain ⟨a, listed, gives⟩ := ih there c member
      exact ⟨a, List.mem_cons_of_mem first listed, gives⟩

/-- What every step of a fold keeps holds of its result. -/
theorem holds_of_foldlM {ε α β : Type} {holds : β → Prop} {step : β → α → Except ε β}
    (keeps : ∀ b a c, holds b → step b a = .ok c → holds c) {items : List α} {b c : β} (h : holds b)
    (ran : items.foldlM step b = .ok c) : holds c := by
  induction items generalizing b with
  | nil => exact Except.ok.inj ran ▸ h
  | cons a rest ih =>
    rw [List.foldlM_cons] at ran
    obtain ⟨next, stepped, ran⟩ := (bind_ok_iff _ _ _).1 ran
    exact ih (keeps b a next h stepped) ran

namespace Action

variable {σ τ α β : Type} {holds : σ → Prop}

/-- What comes behind a failure does not change it. -/
theorem bind_failed {action : Action σ α} {s : σ} {failure : Failure}
    (failed : (action.on s).1 = .error failure) (next : α → Action σ β) :
    ((action >>= next).on s).1 = .error failure := by
  rw [on_bind]
  cases outcome : action.on s with
  | mk answer t =>
    obtain rfl : answer = .error failure := by rw [← failed, outcome]
    rfl

theorem on_pure_ok_iff {a b : α} {s t : σ} :
    (pure a : Action σ α).on s = (.ok b, t) ↔ a = b ∧ s = t := by
  rw [on_pure, Prod.mk.injEq, Except.ok.injEq]

theorem on_ofExcept_ok_iff {result : Except Failure α} {a : α} {s t : σ} :
    (ofExcept result : Action σ α).on s = (.ok a, t) ↔ result = .ok a ∧ s = t := by
  rw [on_ofExcept, Prod.mk.injEq]

/-- Two actions in a row answer exactly if both do. -/
theorem on_bind_ok_iff {action : Action σ α} {next : α → Action σ β} {s t : σ} {b : β} :
    (action >>= next).on s = (.ok b, t) ↔
      ∃ a u, action.on s = (.ok a, u) ∧ (next a).on u = (.ok b, t) := by
  rw [on_bind]
  constructor
  · intro ran
    split at ran
    next a u first => exact ⟨a, u, first, ran⟩
    next => cases ran
  · rintro ⟨a, u, first, second⟩
    rw [first]
    exact second

/-- Two actions in a row fail exactly if one of them does. -/
theorem on_bind_error_iff {action : Action σ α} {next : α → Action σ β} {s t : σ}
    {failure : Failure} : (action >>= next).on s = (.error failure, t) ↔
      action.on s = (.error failure, t) ∨
        ∃ a u, action.on s = (.ok a, u) ∧ (next a).on u = (.error failure, t) := by
  rw [on_bind]
  constructor
  · intro ran
    split at ran
    next a u first => exact .inr ⟨a, u, first, ran⟩
    next other u first =>
      obtain ⟨same, rfl⟩ := Prod.mk.inj ran
      exact .inl (by rw [first, Except.error.inj same])
  · rintro (first | ⟨a, u, first, second⟩)
    · rw [first]
    · rw [first]
      exact second

/-- The property survives the action, whether that answers or fails. -/
def Preserves (holds : σ → Prop) (action : Action σ α) : Prop :=
  ∀ s, holds s → holds (action.on s).2

theorem Preserves.after {action : Action σ α} (keeps : Preserves holds action) {s t : σ}
    (h : holds s) {answer : Except Failure α} (ran : action.on s = (answer, t)) : holds t := by
  have kept := keeps s h
  rwa [ran] at kept

theorem preserves_pure (a : α) : Preserves holds (pure a : Action σ α) := fun _ h => h

theorem preserves_throw (failure : Failure) : Preserves holds (throw failure : Action σ α) :=
  fun _ h => h

theorem preserves_ofExcept (result : Except Failure α) :
    Preserves holds (ofExcept result : Action σ α) := fun _ h => h

theorem preserves_get : Preserves holds (get : Action σ σ) := fun _ h => h

theorem preserves_modify {change : σ → σ} (keeps : ∀ s, holds s → holds (change s)) :
    Preserves holds (modify change : Action σ PUnit) := fun s h => keeps s h

theorem preserves_bind {action : Action σ α} {next : α → Action σ β}
    (first : Preserves holds action) (second : ∀ a, Preserves holds (next a)) :
    Preserves holds (action >>= next) := by
  intro s h
  have kept := first s h
  rw [on_bind]
  cases outcome : action.on s with
  | mk answer t =>
    rw [outcome] at kept
    cases answer with
    | ok a => exact second a t kept
    | error failure => exact kept

theorem preserves_attempt {action : Action σ α} (keeps : Preserves holds action) :
    Preserves holds action.attempt := keeps

theorem preserves_foldlM {step : β → α → Action σ β} (keeps : ∀ b a, Preserves holds (step b a))
    (items : List α) (b : β) : Preserves holds (items.foldlM step b) := by
  induction items generalizing b with
  | nil => exact preserves_pure b
  | cons a rest ih =>
    rw [List.foldlM_cons]
    exact preserves_bind (keeps b a) ih

/-- An action on a part keeps what every replacement of that part by the action keeps. -/
theorem preserves_within {kept : τ → Prop} {part : τ → σ} {replace : τ → σ → τ}
    {action : Action σ α} (keeps : ∀ t, kept t → kept (replace t (action.on (part t)).2)) :
    Preserves kept (action.within part replace) := keeps

/-- Where the property holds it holds afterwards, and the action fails in a given way if at all. -/
def FailsOnly (holds : σ → Prop) (sort : Failure → Prop) (action : Action σ α) : Prop :=
  ∀ s, holds s →
    (∀ failure, (action.on s).1 = .error failure → sort failure) ∧ holds (action.on s).2

variable {sort : Failure → Prop}

/-- An action that answers does not fail at all. -/
theorem failsOnly_of_answers {action : Action σ α}
    (answers : ∀ s, holds s → (∃ a, (action.on s).1 = .ok a) ∧ holds (action.on s).2) :
    FailsOnly holds sort action := by
  intro s h
  obtain ⟨⟨a, answered⟩, kept⟩ := answers s h
  refine ⟨fun failure failed => ?_, kept⟩
  rw [answered] at failed
  cases failed

theorem failsOnly_pure (a : α) : FailsOnly holds sort (pure a : Action σ α) :=
  failsOnly_of_answers fun _ h => ⟨⟨a, rfl⟩, h⟩

theorem failsOnly_get : FailsOnly holds sort (get : Action σ σ) :=
  failsOnly_of_answers fun s h => ⟨⟨s, rfl⟩, h⟩

theorem failsOnly_modify {change : σ → σ} (keeps : ∀ s, holds s → holds (change s)) :
    FailsOnly holds sort (modify change : Action σ PUnit) :=
  failsOnly_of_answers fun s h => ⟨⟨_, rfl⟩, keeps s h⟩

theorem failsOnly_bind {action : Action σ α} {next : α → Action σ β}
    (first : FailsOnly holds sort action) (second : ∀ a, FailsOnly holds sort (next a)) :
    FailsOnly holds sort (action >>= next) := by
  intro s h
  obtain ⟨failed, kept⟩ := first s h
  rw [on_bind]
  cases outcome : action.on s with
  | mk answer t =>
    rw [outcome] at failed kept
    cases answer with
    | ok a => exact second a t kept
    | error failure =>
      refine ⟨fun other same => ?_, kept⟩
      obtain rfl := Except.error.inj same
      exact failed failure rfl

theorem failsOnly_foldlM {step : β → α → Action σ β} (each : ∀ b a, FailsOnly holds sort (step b a))
    (items : List α) (b : β) : FailsOnly holds sort (items.foldlM step b) := by
  induction items generalizing b with
  | nil => exact failsOnly_pure b
  | cons a rest ih =>
    rw [List.foldlM_cons]
    exact failsOnly_bind (each b a) ih

/-- An action that has no way to fail answers. -/
theorem FailsOnly.answers {action : Action σ α} (failsOnly : FailsOnly holds (fun _ => False) action)
    {s : σ} (h : holds s) : ∃ a, (action.on s).1 = .ok a := by
  obtain ⟨never, -⟩ := failsOnly s h
  cases outcome : (action.on s).1 with
  | ok a => exact ⟨a, rfl⟩
  | error failure => exact absurd outcome (never failure)

section Commutes

variable {change : σ → σ}

/-- On a changed state the action answers as on the state itself, and the change is still there
afterwards. -/
def Commutes (change : σ → σ) (action : Action σ α) : Prop :=
  ∀ s, action.on (change s) = ((action.on s).1, change (action.on s).2)

theorem commutes_pure (a : α) : Commutes change (pure a : Action σ α) := fun _ => rfl

theorem commutes_throw (failure : Failure) : Commutes change (throw failure : Action σ α) :=
  fun _ => rfl

theorem commutes_ofExcept (result : Except Failure α) :
    Commutes change (ofExcept result : Action σ α) := fun _ => rfl

theorem commutes_modify {note : σ → σ} (apart : ∀ s, note (change s) = change (note s)) :
    Commutes change (modify note : Action σ PUnit) := by
  intro s
  rw [on_modify, on_modify, apart]

theorem commutes_bind {action : Action σ α} {next : α → Action σ β}
    (first : Commutes change action) (second : ∀ a, Commutes change (next a)) :
    Commutes change (action >>= next) := by
  intro s
  rw [on_bind, on_bind, first s]
  cases action.on s with
  | mk answer t =>
    cases answer with
    | ok a => exact second a t
    | error failure => rfl

/-- What is read of the state must not show the change. -/
theorem commutes_get_bind {next : σ → Action σ β} (blind : ∀ s, next (change s) = next s)
    (second : ∀ s, Commutes change (next s)) : Commutes change (get >>= next) := by
  intro s
  rw [on_bind, on_bind, on_get, on_get]
  simp only [blind]
  exact second s s

/-- An action on a part does not meet a change of the rest. -/
theorem commutes_within {change : τ → τ} {part : τ → σ} {replace : τ → σ → τ}
    {action : Action σ α} (hidden : ∀ t, part (change t) = part t)
    (apart : ∀ t s, replace (change t) s = change (replace t s)) :
    Commutes change (action.within part replace) := by
  intro t
  rw [on_within, on_within, hidden, apart]

end Commutes

end Action

end SpecLink
