import SpecLink.Proofs.Reading
import SpecLink.Proofs.Resolver.Contract

/-!
# The phases of a resolver

A resolver collects definitions, is then complete, and finally resolves. The index of its
definitions has a phase of its own, and the two keep in step: the index is sealed exactly once
collecting is over. Main statement: `phases_of_run`.
-/
namespace SpecLink

/-- Whatever a source fails with, it does not speak of the phases of a resolver. -/
def DataSource.Timely (source : DataSource) : Prop :=
  ∀ path fault, source.fetch path ≠ .error (.phase fault)

theorem DataSource.timely_ofFiles (files : SortedMap String) : (ofFiles files).Timely :=
  fun _ _ => nofun

theorem FileTree.timely_dataSource (tree : FileTree) (directory : String) :
    (tree.dataSource directory).Timely :=
  fun _ _ failed => nomatch FileTree.fetch_error failed

theorem DataSource.Timely.not_failsWith {source : DataSource} (timely : source.Timely)
    {fault : PhaseFault} : ¬ source.FailsWith (.phase fault) := by
  intro fails
  cases fails with
  | fetch failed => exact timely _ fault failed

/-- How one call may move the phase. -/
inductive LinkPhase.Moves : LinkPhase → LinkPhase → Prop
  | stay (phase : LinkPhase) : Moves phase phase
  | complete : Moves .collecting .complete
  | begin : Moves .complete .resolving

theorem LinkPhase.Moves.begun {phase next : LinkPhase} (moves : LinkPhase.Moves phase next)
    (begun : phase ≠ .collecting) : next ≠ .collecting := by
  cases moves with
  | stay => exact begun
  | complete => nofun
  | begin => nofun

namespace Resolver

/-- What lookups may do to the phase and to the definitions. -/
structure LookedUp (r s : Resolver) : Prop where
  definitions : s.definitions = r.definitions
  phase : s.phase = r.phase ∨ r.phase = .complete ∧ s.phase = .resolving

theorem stable_lookedUp (r : Resolver) : Stable (LookedUp r) := by
  intro s t change looked
  cases change with
  | begin complete =>
    refine ⟨looked.definitions, ?_⟩
    -- No lookup makes a resolver complete, so it was complete from the start.
    rcases looked.phase with same | ⟨-, resolving⟩
    · exact .inr ⟨same.symm.trans complete, rfl⟩
    · rw [complete] at resolving
      cases resolving
  | opened | readInto | lookup | noted => exact ⟨looked.definitions, looked.phase⟩

/-- What a call may do to the phases and to the definitions. -/
structure Follows (r s : Resolver) : Prop where
  moves : LinkPhase.Moves r.phase s.phase
  inStep : (r.definitions.isSealed = true ↔ r.phase ≠ .collecting) →
    (s.definitions.isSealed = true ↔ s.phase ≠ .collecting)
  definitions : r.phase ≠ .collecting → s.definitions = r.definitions

theorem LookedUp.follows {r s : Resolver} (looked : LookedUp r s) : Follows r s := by
  rcases looked.phase with same | ⟨complete, resolving⟩
  · refine ⟨same ▸ .stay _, ?_, fun _ => looked.definitions⟩
    rw [looked.definitions, same]
    exact id
  · refine ⟨?_, ?_, fun _ => looked.definitions⟩
    · rw [complete, resolving]
      exact .begin
    · rw [looked.definitions, complete, resolving]
      intro inStep
      rw [inStep]
      decide

variable {metadata : Metadata} {r : Resolver}

theorem follows_define (consistent : Consistent metadata r) (d : Definition) :
    Follows r ((define d).on r).2 := by
  by_cases begun : r.phase ≠ .collecting
  · rw [define_on_of_begun begun]
    exact ⟨.stay _, id, fun _ => rfl⟩
  · -- The index takes the definition or refuses it, and stays open either way.
    have kept := DefinitionIndex.preserves_insert d r.definitions ⟨rfl, consistent.own⟩
    rw [define_on_of_collecting (not_not.1 begun)]
    refine ⟨.stay _, fun inStep => ?_, fun ended => absurd ended begun⟩
    rw [kept.isSealed]
    exact inStep

theorem follows_finish (r : Resolver) : Follows r r.finish := by
  by_cases begun : r.phase ≠ .collecting
  · rw [finish_of_begun begun]
    exact ⟨.stay _, id, fun _ => rfl⟩
  · have collecting := not_not.1 begun
    have ended : r.finish = { r with phase := .complete, definitions := r.definitions.finish } := by
      rw [finish, collecting]
    rw [ended]
    have left : LinkPhase.complete ≠ .collecting := by decide
    refine ⟨?_, fun _ => ⟨fun _ => left, fun _ => rfl⟩, fun ended => absurd collecting ended⟩
    rw [collecting]
    exact .complete

theorem follows_after (consistent : Consistent metadata r) (c : Call) : Follows r (c.after r) := by
  have kept : Stable (LookedUp r) := stable_lookedUp r
  have here : LookedUp r r := ⟨rfl, .inl rfl⟩
  cases c with
  | define d => exact follows_define consistent d
  | finish => exact follows_finish r
  | resolve request => exact (kept.preserves_resolve request r here).follows
  | cite request => exact (kept.preserves_cite request r here).follows
  | findSection spec id status => exact (kept.preserves_findSection spec id status r here).follows

/-- The index is sealed exactly if the resolver does not collect definitions any more. -/
theorem Reachable.isSealed_iff (reached : Reachable metadata r) :
    r.definitions.isSealed = true ↔ r.phase ≠ .collecting := by
  induction reached with
  | ofStores anchors biblio config =>
    have fresh := fresh_ofStores anchors biblio config metadata
    rw [fresh.definitions, fresh.phase]
    decide
  | call c reached ih => exact (follows_after reached.consistent c).inStep ih
  | biblio _ _ ih => exact ih
  | messages _ _ ih => exact ih

/-- Once collecting is over, it stays over, and the definitions stay as they are. -/
theorem run_of_begun (reached : Reachable metadata r) (begun : r.phase ≠ .collecting)
    (calls : List Call) :
    (run calls r).phase ≠ .collecting ∧ (run calls r).definitions = r.definitions := by
  induction calls generalizing r with
  | nil => exact ⟨begun, rfl⟩
  | cons c rest ih =>
    have follows := follows_after reached.consistent c
    obtain ⟨ended, same⟩ := ih (reached.call c) (follows.moves.begun begun)
    exact ⟨ended, same.trans (follows.definitions begun)⟩

/-- Only a resolver that collects definitions takes a request for untimely. -/
theorem resolve_ne_phase {a b : DataSource} (reads : Reads a b r) (anchorsTimely : a.Timely)
    (entriesTimely : b.Timely) (begun : r.phase ≠ .collecting)
    (closed : r.definitions.isSealed = true) (request : LinkRequest) (fault : PhaseFault) :
    ((resolve request).on r).1 ≠ .error (.phase fault) := by
  intro failed
  rcases resolve_cases begun closed request with same | ⟨failure, answered, unreadable⟩
  · obtain ⟨kind, text, stage, other⟩ := notFound_of_outcome (same ▸ failed)
    cases other
  · rw [failed] at answered
    obtain rfl := Except.error.inj answered
    rcases unreadable with unreadable | unreadable
    · exact anchorsTimely.not_failsWith
        (reads.anchors ▸ AnchorStore.failsWith_of_unreadable unreadable)
    · exact entriesTimely.not_failsWith
        (reads.biblio ▸ BiblioStore.failsWith_of_unreadable unreadable)

theorem gather_ne_phase {a b : DataSource} (reads : Reads a b r) (anchorsTimely : a.Timely)
    (closed : r.definitions.isSealed = true) (kind : LinkKind) (texts : List String)
    (fault : PhaseFault) : ((gather kind texts).on r).1 ≠ .error (.phase fault) := by
  obtain ⟨answer, store, ran, -, answered⟩ := gather_on closed kind texts
  rw [ran]
  rcases answered with rfl | ⟨failure, rfl, unreadable⟩
  · nofun
  · intro failed
    obtain rfl : failure = .phase fault := Except.error.inj failed
    exact anchorsTimely.not_failsWith
      (reads.anchors ▸ AnchorStore.failsWith_of_unreadable unreadable)

/-- Whatever calls a resolver has taken, failed ones included: the next one moves its phase by one
step at most, and never back. The index is sealed exactly if the resolver does not collect. After
the collection is ended, whatever calls follow, the definitions stay as they are, and each further
one is refused. A request is refused as untimely exactly while the resolver collects, and then
nothing changes; the search itself is never refused so. -/
theorem phases_of_run (anchors : AnchorStore) (biblio : BiblioStore) (config : Config)
    (metadata : Metadata) (anchorsTimely : anchors.source.Timely)
    (entriesTimely : biblio.source.Timely) (calls : List Call) :
    let r := run calls (ofStores anchors biblio config metadata)
    (∀ c : Call, LinkPhase.Moves r.phase (c.after r).phase) ∧
    (r.definitions.isSealed = true ↔ r.phase ≠ .collecting) ∧
    (∀ (later : List Call) (d : Definition),
      let s := run (.finish :: later) r
      s.definitions = r.definitions.finish ∧
        (define d).on s = (.error (.phase (.linkingBegun d.id)), s)) ∧
    ∀ request : LinkRequest,
      ((∃ fault, ((resolve request).on r).1 = .error (.phase fault)) ↔ r.phase = .collecting) ∧
      (r.phase = .collecting →
        (resolve request).on r = (.error (.phase (.collecting request.text)), r)) ∧
      (∀ s, (beginResolving request.text).on r = (.ok (), s) → ∀ kind texts fault,
        ((gather kind texts).on s).1 ≠ .error (.phase fault)) := by
  intro r
  have reached : Reachable metadata r := reachable_run anchors biblio config metadata calls
  have reads : Reads anchors.source biblio.source r :=
    (reads_ofStores anchors biblio config metadata).run calls
  refine ⟨fun c => (follows_after reached.consistent c).moves, reached.isSealed_iff, ?_, ?_⟩
  · intro later d
    have begun : r.finish.phase ≠ .collecting := by
      rw [finish]
      split
      next =>
        intro collecting
        cases collecting
      next begun => exact begun
    have ended : r.finish.definitions = r.definitions.finish := by
      rw [finish]
      split
      next => rfl
      next begun =>
        -- A second end finds the index sealed.
        have closed := reached.isSealed_iff.2 begun
        rw [DefinitionIndex.finish, ← closed]
    obtain ⟨begun, same⟩ := run_of_begun (reached.call .finish) begun later
    exact ⟨same.trans ended, define_on_of_begun begun d⟩
  · intro request
    refine ⟨?_, fun collecting => resolve_of_collecting collecting request, ?_⟩
    · constructor
      · rintro ⟨fault, failed⟩
        by_contra begun
        exact resolve_ne_phase reads anchorsTimely entriesTimely begun
          (reached.isSealed_iff.2 begun) request fault failed
      · intro collecting
        exact ⟨_, congrArg Prod.fst (resolve_of_collecting collecting request)⟩
    · intro s began kind texts fault
      by_cases begun : r.phase ≠ .collecting
      · rw [beginResolving_on begun] at began
        obtain rfl := (Prod.mk.inj began).2
        exact gather_ne_phase (r := { r with phase := .resolving }) ⟨reads.anchors, reads.biblio⟩
          anchorsTimely (reached.isSealed_iff.2 begun) kind texts fault
      · -- The search does not even start.
        simp only [beginResolving, Action.on_bind, Action.on_get, not_not.1 begun,
          Action.on_throw] at began
        cases (Prod.mk.inj began).1

/-- A definition that comes after a link was looked up too early and the collection was ended. -/
theorem define_late_refused :
    (DataSource.ofFiles ∅).Timely ∧
    ((define { id := "late", texts := "late" }).on (run [.finish, .findSection "css" "#a" none]
      (run [.define { id := "box", texts := "box" }, .resolve { kind := .maybe, text := "box" }]
        (ofStores { source := .ofFiles ∅ } { source := .ofFiles ∅ }
          { version := 1, dataDir := "" } {})))).1 = .error (.phase (.linkingBegun "late")) := by
  have phases := phases_of_run { source := .ofFiles ∅ } { source := .ofFiles ∅ }
    { version := 1, dataDir := "" } {} (DataSource.timely_ofFiles ∅) (DataSource.timely_ofFiles ∅)
    [.define { id := "box", texts := "box" }, .resolve { kind := .maybe, text := "box" }]
  refine ⟨DataSource.timely_ofFiles ∅, ?_⟩
  rw [(phases.2.2.1 [.findSection "css" "#a" none] { id := "late", texts := "late" }).2]

end Resolver

end SpecLink
