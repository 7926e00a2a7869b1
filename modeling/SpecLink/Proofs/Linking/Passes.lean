import SpecLink.Proofs.Linking.Exits
import SpecLink.Proofs.Resolver.Run

/-!
# Passes over links

A pass links one element after the other and does to the resolver nothing but what lookups do. It is
a sequence of turns (`Turn`), up to the first element that cannot be linked. Main statements:
`Stable.linkElements`, `exists_turn_of_mem` and `exists_of_failed`.
-/
namespace SpecLink.Resolver

open SpecLink.Action

namespace Stable

variable {holds : Resolver → Prop}

theorem preserves_linkElement (stable : Stable holds) (el : Element) :
    Preserves holds (linkElement el) := by
  intro r h
  cases linked : (linkElement el).on r with
  | mk answer s =>
    cases exit_of_linkElement linked with
    | refused => exact stable (.noted _ _) h
    | term ran | noTerm _ _ _ ran | termBroken ran => exact (stable.preserves_resolve _).after h ran
    | entry _ _ ran | noEntry _ _ _ ran | entryBroken ran =>
      exact (stable.preserves_cite _).after h ran
    | «section» _ ran | sectionBroken ran =>
      exact (stable.preserves_findSection _ _ _).after h ran
    | noSection ran => exact stable (.noted _ _) ((stable.preserves_findSection _ _ _).after h ran)

/-- What lookups keep, a whole pass keeps. -/
theorem linkElements (stable : Stable holds) (els : List Element) {r : Resolver} (h : holds r) :
    holds (linkElements els r).2 := by
  induction els generalizing r with
  | nil => exact h
  | cons el rest ih =>
    rw [Resolver.linkElements]
    split
    · exact ih h
    · have kept := stable.preserves_linkElement el r h
      cases ran : (linkElement el).on r with
      | mk answer next =>
        rw [ran] at kept
        cases answer with
        | ok linked => exact ih kept
        | error failure => exact kept

end Stable

/-- The resolver is ready to link over two sources of data. -/
structure Links (anchors biblio : DataSource) (r : Resolver) : Prop where
  begun : r.phase ≠ .collecting
  closed : r.definitions.isSealed = true
  reads : Reads anchors biblio r

theorem stable_links {anchors biblio : DataSource} : Stable (Links anchors biblio) := by
  intro r s change links
  have reads := stable_reads change links.reads
  cases change with
  | begin =>
    refine { links with begun := fun collecting => ?_, reads := reads }
    cases collecting
  | opened | readInto | lookup | noted => exact { links with reads := reads }

theorem Reachable.links {metadata : Metadata} {r : Resolver} (reached : Reachable metadata r)
    (begun : r.phase ≠ .collecting) : Links r.anchors.source r.biblio.source r :=
  ⟨begun, reached.consistent.isSealed begun, ⟨rfl, rfl⟩⟩

/-- One element of a pass that goes on behind it: what it becomes, what it adds to the report, and the
resolver that it leaves. -/
inductive Turn (r : Resolver) (el : Element) : Element → LinkReport → Resolver → Prop
  | stay (linked : el.isLinked = true) : Turn r el el {} r
  | link {result : Element} {outcome : LinkOutcome} {s : Resolver} (unlinked : el.isLinked = false)
    (ran : (linkElement el).on r = (.ok (result, outcome), s)) : Turn r el result outcome.count s

theorem turn_or_failure (r : Resolver) (el : Element) :
    (∃ result count s, Turn r el result count s) ∨
      el.isLinked = false ∧ ∃ failure s, (linkElement el).on r = (.error failure, s) := by
  cases linked : el.isLinked with
  | true => exact .inl ⟨_, _, _, .stay linked⟩
  | false =>
    cases ran : (linkElement el).on r with
    | mk answer s =>
      cases answer with
      | ok answer => exact .inl ⟨_, _, _, .link linked ran⟩
      | error failure => exact .inr ⟨rfl, failure, s, rfl⟩

theorem Turn.linkElements_cons {r s : Resolver} {el result : Element} {count : LinkReport}
    (turn : Turn r el result count s) (rest : List Element) :
    linkElements (el :: rest) r =
      ((linkElements rest s).1.after result count, (linkElements rest s).2) := by
  rw [linkElements]
  cases turn with
  | stay linked => rw [if_pos linked]
  | link unlinked ran => rw [unlinked, if_neg Bool.false_ne_true, ran]

/-- The pass ends with an element that cannot be linked. -/
theorem linkElements_cons_of_failed {r s : Resolver} {el : Element} {failure : Failure}
    (unlinked : el.isLinked = false) (ran : (linkElement el).on r = (.error failure, s))
    (rest : List Element) :
    linkElements (el :: rest) r = (⟨el :: rest, .error failure⟩, s) := by
  rw [linkElements, unlinked, if_neg Bool.false_ne_true, ran]

/-- A pass keeps the number of elements, also if it ends early. -/
theorem length_linkElements (els : List Element) (r : Resolver) :
    (linkElements els r).1.elements.length = els.length := by
  induction els generalizing r with
  | nil => rfl
  | cons el rest ih =>
    rcases turn_or_failure r el with ⟨result, count, s, turn⟩ | ⟨unlinked, failure, s, ran⟩
    · rw [turn.linkElements_cons]
      exact congrArg (· + 1) (ih s)
    · rw [linkElements_cons_of_failed unlinked ran]

theorem map_add_ok_iff {count report : LinkReport} {outcome : Except Failure LinkReport} :
    outcome.map count.add = .ok report ↔ ∃ others, outcome = .ok others ∧ count.add others = report := by
  cases outcome <;> simp [Except.map]

/-- A pass that comes to its end is a turn and a pass over the rest. -/
theorem exists_turn_of_ended {r : Resolver} {el : Element} {rest : List Element}
    {report : LinkReport} (ended : (linkElements (el :: rest) r).1.outcome = .ok report) :
    ∃ result count s others, Turn r el result count s ∧
      (linkElements rest s).1.outcome = .ok others ∧ count.add others = report := by
  rcases turn_or_failure r el with ⟨result, count, s, turn⟩ | ⟨unlinked, failure, s, ran⟩
  · rw [turn.linkElements_cons] at ended
    obtain ⟨others, ended, total⟩ := map_add_ok_iff.1 ended
    exact ⟨result, count, s, others, turn, ended, total⟩
  · rw [linkElements_cons_of_failed unlinked ran] at ended
    cases ended

/-- An element that is linked comes first in what the pass over it and the rest gives. -/
theorem linkElements_cons {el linked : Element} {outcome : LinkOutcome} (rest : List Element)
    {r : Resolver} (unlinked : el.isLinked = false)
    (answered : ((linkElement el).on r).1 = .ok (linked, outcome)) :
    ∃ others, (linkElements (el :: rest) r).1.elements = linked :: others := by
  have turn : Turn r el linked outcome.count ((linkElement el).on r).2 :=
    .link unlinked (Prod.ext answered rfl)
  rw [turn.linkElements_cons]
  exact ⟨_, rfl⟩

/-- Links behind a pass that comes to its end are linked by the resolver that it leaves. -/
theorem linkElements_append {first : List Element} (rest : List Element) {r : Resolver}
    {report : LinkReport} (ended : (linkElements first r).1.outcome = .ok report) :
    (linkElements first r).1.elements.length = first.length ∧
    (linkElements (first ++ rest) r).1.elements = (linkElements first r).1.elements ++
      (linkElements rest (linkElements first r).2).1.elements := by
  refine ⟨length_linkElements first r, ?_⟩
  induction first generalizing r report with
  | nil => rfl
  | cons el others ih =>
    obtain ⟨result, count, s, report, turn, ended, -⟩ := exists_turn_of_ended ended
    rw [List.cons_append, turn.linkElements_cons, turn.linkElements_cons]
    exact congrArg (result :: ·) (ih ended)

/-- In a pass that comes to its end every element has its turn, with the resolver that the elements
before it leave, and what it becomes stands in its place. -/
theorem exists_turn_of_mem {first rest : List Element} {el : Element} {r : Resolver}
    {report : LinkReport} (ended : (linkElements (first ++ el :: rest) r).1.outcome = .ok report) :
    ∃ result count s, Turn (linkElements first r).2 el result count s ∧
      (linkElements (first ++ el :: rest) r).1.elements[first.length]? = some result := by
  induction first generalizing r report with
  | nil =>
    obtain ⟨result, count, s, -, turn, -, -⟩ := exists_turn_of_ended ended
    rw [List.nil_append, turn.linkElements_cons]
    exact ⟨result, count, s, turn, rfl⟩
  | cons head others ih =>
    obtain ⟨_, _, s, report, turn, ended, -⟩ := exists_turn_of_ended ended
    obtain ⟨result, count, t, here, place⟩ := ih ended
    rw [List.cons_append, turn.linkElements_cons, turn.linkElements_cons]
    exact ⟨result, count, t, here, place⟩

/-- A pass that does not come to its end breaks off at an element without a target, and this one and
the elements behind it stay as they are. -/
theorem exists_of_failed {els : List Element} {r : Resolver} {failure : Failure}
    (failed : (linkElements els r).1.outcome = .error failure) :
    ∃ first el rest, els = first ++ el :: rest ∧ el.isLinked = false ∧
      (∃ report, (linkElements first r).1.outcome = .ok report) ∧
      ((linkElement el).on (linkElements first r).2).1 = .error failure ∧
      (linkElements els r).1.elements = (linkElements first r).1.elements ++ el :: rest := by
  induction els generalizing r with
  | nil => cases failed
  | cons head others ih =>
    rcases turn_or_failure r head with ⟨result, count, s, turn⟩ | ⟨unlinked, fault, s, ran⟩
    · rw [turn.linkElements_cons] at failed
      have later : (linkElements others s).1.outcome = .error failure := by
        cases ended : (linkElements others s).1.outcome with
        | ok report => simp [LinkPass.after, ended, Except.map] at failed
        | error fault => simpa [LinkPass.after, ended, Except.map] using failed
      obtain ⟨first, el, rest, rfl, unlinked, ⟨report, ended⟩, broken, elements⟩ := ih later
      refine ⟨head :: first, el, rest, rfl, unlinked, ?_⟩
      rw [turn.linkElements_cons, turn.linkElements_cons]
      exact ⟨⟨_, map_add_ok_iff.2 ⟨report, ended, rfl⟩⟩, broken, congrArg (result :: ·) elements⟩
    · rw [linkElements_cons_of_failed unlinked ran] at failed ⊢
      obtain rfl := Except.error.inj failed
      exact ⟨[], head, others, rfl, unlinked, ⟨_, rfl⟩, congrArg Prod.fst ran, rfl⟩

/-- An element that cannot be linked ends the pass. -/
theorem failed_of_linkElement {first rest : List Element} {el : Element} {r : Resolver}
    {report : LinkReport} {failure : Failure}
    (ended : (linkElements first r).1.outcome = .ok report) (unlinked : el.isLinked = false)
    (broken : ((linkElement el).on (linkElements first r).2).1 = .error failure) :
    (linkElements (first ++ el :: rest) r).1.outcome = .error failure := by
  induction first generalizing r report with
  | nil =>
    have ran : (linkElement el).on r = (.error failure, ((linkElement el).on r).2) :=
      Prod.ext broken rfl
    rw [List.nil_append, linkElements_cons_of_failed unlinked ran]
  | cons head others ih =>
    obtain ⟨_, _, s, report, turn, ended, -⟩ := exists_turn_of_ended ended
    rw [turn.linkElements_cons] at broken
    rw [List.cons_append, turn.linkElements_cons]
    exact congrArg (Except.map _) (ih ended broken)

end SpecLink.Resolver
