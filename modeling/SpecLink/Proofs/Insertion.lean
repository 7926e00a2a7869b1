import SpecLink.Proofs.Index.Additions

/-!
# What insertions leave in the index

An insertion appends candidates and takes nothing away, also if it fails halfway. After one that
succeeds, each of its texts is indexed for its kind and scope. Main statements: `preserves_insert`
and `claimed_of_insert`.
-/
namespace SpecLink.DefinitionIndex

variable {index : DefinitionIndex} {d : Definition} {c : Candidate}

/-- Nothing but definitions of the document is indexed, and the index is sealed or not as given. -/
structure Holds (closed : Bool) (index : DefinitionIndex) : Prop where
  isSealed : index.isSealed = closed
  own : ∀ c ∈ index.candidates, c.isLocal = true

theorem isLocal_of_mem_candidates (member : c ∈ d.candidates) : c.isLocal = true := by
  rcases List.mem_append.1 member with member | member <;>
  · obtain ⟨text, -, rfl⟩ := List.mem_map.1 member
    rfl

theorem insert_on_of_sealed (closed : index.isSealed = true) (d : Definition) :
    (insert d).on index = (.error (.phase (.indexSealed d.id)), index) := by
  simp only [insert, Action.on_bind, Action.on_get, closed, if_true, Action.on_throw]

/-- An index gains candidates of the definition that is inserted, if anything. -/
theorem insert_appends (index : DefinitionIndex) (d : Definition) :
    ∃ added size, (∀ c ∈ added, c ∈ d.candidates) ∧
      ((insert d).on index).2 = { index with candidates := index.candidates ++ added, size } := by
  rcases Bool.eq_false_or_eq_true index.isSealed with phase | phase
  · refine ⟨[], index.size, fun c member => absurd member List.not_mem_nil, ?_⟩
    rw [insert_on_of_sealed phase, List.append_nil]
  · have added : ∀ c ∈ index.additions d, c ∈ d.candidates := fun c member =>
      (additions_sublist index d).subset member
    rw [insert_on phase]
    cases index.failure? d with
    | some failure => exact ⟨index.additions d, index.size, added, rfl⟩
    | none => exact ⟨index.additions d, _, added, rfl⟩

theorem preserves_insert {closed : Bool} (d : Definition) :
    Action.Preserves (Holds closed) (insert d) := by
  intro index holds
  obtain ⟨added, size, ours, changed⟩ := insert_appends index d
  rw [changed]
  refine ⟨holds.isSealed, fun c member => ?_⟩
  rcases List.mem_append.1 member with before | last
  · exact holds.own c before
  · exact isLocal_of_mem_candidates (ours c last)

/-- Some indexed candidate has the text, kind and scope of the given one. -/
def Claimed (c : Candidate) (index : DefinitionIndex) : Prop :=
  ∃ other ∈ index.candidates, other.text = c.text ∧ other.kind = c.kind ∧ other.scope = c.scope

theorem claimed_iff : Claimed c index ↔ ∃ other ∈ index.candidates, other.claim = c.claim := by
  simp only [Claimed, Candidate.claim, Prod.mk.injEq]

/-- What is claimed stays claimed. -/
theorem preserves_claimed (c : Candidate) (d : Definition) :
    Action.Preserves (Claimed c) (insert d) := by
  rintro index ⟨other, member, same⟩
  obtain ⟨added, size, -, changed⟩ := insert_appends index d
  rw [changed]
  exact ⟨other, List.mem_append_left added member, same⟩

/-- After an insertion that succeeds, the index has all that it was to insert. -/
theorem claimed_of_insert {n : Nat} (inserted : ((insert d).on index).1 = .ok n) :
    ∀ c ∈ d.candidates, Claimed c ((insert d).on index).2 := by
  intro c member
  cases phase : index.isSealed with
  | true =>
    rw [insert_on_of_sealed phase] at inserted
    cases inserted
  | false =>
    have accepted := (insert_ok_iff phase d).1 ⟨n, inserted⟩
    rw [claimed_iff, (insert_on_of_accepted phase inserted).2, additions,
      admitted_of_accepted accepted]
    exact exists_claim_of_mem index member

/-- An index that is not sealed takes no definition for untimely. -/
theorem insert_ne_phase (opened : index.isSealed = false) (fault : PhaseFault) :
    ((insert d).on index).1 ≠ .error (.phase fault) := by
  intro failed
  rcases failure?_cases ((insert_error_iff opened d).1 failed) with
    ⟨_, -, other, -⟩ | ⟨_, _, _, _, -, -, -, -, -, -, other, -⟩ <;> cases other

end SpecLink.DefinitionIndex
