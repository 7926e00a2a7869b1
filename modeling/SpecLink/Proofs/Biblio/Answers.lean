import SpecLink.Proofs.Biblio.History

/-!
# What the steps of a lookup can answer

Each step that answers does so in one of a few ways, and each way says what the steps before it have
found. None of this depends on whether all shards can be read. Main statement: `find_cases`, by which
a lookup answers with what its key comes to or with what the successor of that comes to.
-/
namespace SpecLink

/-- The answer has come to an entry, be it an obsolete one. -/
def BiblioAnswer.Settled : BiblioAnswer → Prop
  | .found _ | .succeeded .. | .noSuccessor .. => True
  | .wrongVersion _ | .missing => False

namespace BiblioStore

open SpecLink.Action

variable {store after : BiblioStore} {key : String} {answer : BiblioAnswer}

theorem findExact_ok {found : Option BiblioEntry}
    (ran : (findExact key).on store = (.ok found, after)) :
    found = store.entryFor? key ∧ after = store.opened key := by
  obtain ⟨_, mid, loaded, ran⟩ := on_bind_ok_iff.1 ran
  rw [loadShard_on] at loaded
  obtain ⟨-, rfl⟩ := Prod.mk.inj loaded
  obtain ⟨rfl, rfl⟩ := on_pure_ok_iff.1 ran
  exact ⟨rfl, rfl⟩

/-- Before succession there are three ways to answer. -/
theorem findKey_cases (ran : (findKey key).on store = (.ok answer, after)) :
    (∃ e, answer = .found e) ∨ (∃ versions, answer = .wrongVersion versions) ∨
      answer = .missing := by
  obtain ⟨direct, mid, -, rest⟩ := on_bind_ok_iff.1 ran
  cases direct with
  | some e =>
    obtain ⟨rfl, -⟩ := on_pure_ok_iff.1 rest
    exact .inl ⟨e, rfl⟩
  | none =>
    simp only at rest
    split at rest
    · obtain ⟨rfl, -⟩ := on_pure_ok_iff.1 rest
      exact .inr (.inr rfl)
    · -- A key with a number comes to the entry of its name, if to any.
      obtain ⟨_, _, -, rest⟩ := on_bind_ok_iff.1 rest
      obtain ⟨bare, _, -, rest⟩ := on_bind_ok_iff.1 rest
      cases bare with
      | none =>
        obtain ⟨rfl, -⟩ := on_pure_ok_iff.1 rest
        exact .inr (.inr rfl)
      | some e =>
        obtain ⟨rfl, -⟩ := on_pure_ok_iff.1 rest
        split
        · exact .inl ⟨e, rfl⟩
        · exact .inr (.inl ⟨_, rfl⟩)

/-- An entry without a successor stays, any other gives way to what the key of its successor comes
to, or is left without one. -/
theorem follow_cases {e : BiblioEntry} (ran : (follow e).on store = (.ok answer, after)) :
    (e.supersededBy = none ∧ answer = .found e) ∨
    ∃ next, e.supersededBy = some next ∧
      ((∃ successor, (findDirect next).on store = (.ok (some successor), after) ∧
          answer = .succeeded e successor) ∨
        ((findDirect next).on store = (.ok none, after) ∧ answer = .noSuccessor e next)) := by
  rw [follow] at ran
  cases superseded : e.supersededBy with
  | none =>
    rw [superseded] at ran
    obtain ⟨rfl, -⟩ := on_pure_ok_iff.1 ran
    exact .inl ⟨rfl, rfl⟩
  | some next =>
    rw [superseded] at ran
    obtain ⟨successor, _, looked, ran⟩ := on_bind_ok_iff.1 ran
    refine .inr ⟨next, rfl, ?_⟩
    cases successor with
    | some other =>
      obtain ⟨rfl, rfl⟩ := on_pure_ok_iff.1 ran
      exact .inl ⟨other, looked, rfl⟩
    | none =>
      obtain ⟨rfl, rfl⟩ := on_pure_ok_iff.1 ran
      exact .inr ⟨looked, rfl⟩

theorem settled_of_follow {e : BiblioEntry} (ran : (follow e).on store = (.ok answer, after)) :
    answer.Settled := by
  rcases follow_cases ran with ⟨-, rfl⟩ | ⟨next, -, ⟨successor, -, rfl⟩ | ⟨-, rfl⟩⟩ <;> trivial

/-- A lookup follows the entry of its key unless obsolete entries are wanted as they are. Anything
else is the answer at once. -/
theorem find_cases {allowObsolete : Bool}
    (ran : (find key allowObsolete).on store = (.ok answer, after)) :
    (∃ e mid, (findKey key).on store = (.ok (.found e), mid) ∧ allowObsolete = false ∧
      (follow e).on mid = (.ok answer, after)) ∨
    ((findKey key).on store = (.ok answer, after) ∧
      (allowObsolete = true ∨ answer.genuine? = none)) := by
  obtain ⟨first, mid, found, rest⟩ := on_bind_ok_iff.1 ran
  rcases findKey_cases found with ⟨e, rfl⟩ | ⟨versions, rfl⟩ | rfl
  case inl =>
    cases allowObsolete with
    | true =>
      obtain ⟨rfl, rfl⟩ := on_pure_ok_iff.1 rest
      exact .inr ⟨found, .inl rfl⟩
    | false => exact .inl ⟨e, mid, found, rfl, rest⟩
  case inr.inl | inr.inr =>
    obtain ⟨rfl, rfl⟩ := on_pure_ok_iff.1 rest
    exact .inr ⟨found, .inr rfl⟩

end BiblioStore

end SpecLink
