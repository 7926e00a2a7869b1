import SpecLink.Proofs.Biblio.Shards
import SpecLink.Proofs.Insertion
import SpecLink.Proofs.Resolver.Changes

/-!
# Runs of a resolver

A resolver is made over two stores and then takes calls, in any order. Main statement:
`Reachable.consistent`, by which the index of every resolver that has left the first phase is
sealed and holds definitions of the document alone.
-/
namespace SpecLink

namespace Resolver

/-- The calls that a resolver takes. -/
inductive Call where
  | define (d : Definition)
  | finish
  | resolve (request : LinkRequest)
  | cite (request : BiblioRequest)
  | findSection (spec id : String) (status : Option Status)

/-- The resolver after a call, whether that answers or fails. -/
def Call.after (r : Resolver) : Call → Resolver
  | .define d => ((Resolver.define d).on r).2
  | .finish => r.finish
  | .resolve request => ((Resolver.resolve request).on r).2
  | .cite request => ((Resolver.cite request).on r).2
  | .findSection spec id status => ((Resolver.findSection spec id status).on r).2

/-- The resolver after some calls, the first one first. -/
def run (calls : List Call) (r : Resolver) : Resolver := calls.foldl Call.after r

/-- Once the collection has ended, definitions come too late. -/
theorem define_on_of_begun {r : Resolver} (begun : r.phase ≠ .collecting) (d : Definition) :
    (define d).on r = (.error (.phase (.linkingBegun d.id)), r) := by
  simp only [define, Action.on_bind, Action.on_get, bne_iff_ne.2 begun, if_true, Action.on_throw]

/-- While definitions are collected, the index decides about them. -/
theorem define_on_of_collecting {r : Resolver} (collecting : r.phase = .collecting)
    (d : Definition) : (define d).on r =
      (((DefinitionIndex.insert d).on r.definitions).1,
        { r with definitions := ((DefinitionIndex.insert d).on r.definitions).2 }) := by
  simp only [define, Action.on_bind, Action.on_get, collecting, bne_self_eq_false,
    Bool.false_eq_true, if_false, Action.on_within]

theorem finish_of_begun {r : Resolver} (begun : r.phase ≠ .collecting) : r.finish = r := by
  rw [finish]
  split
  next collecting => exact absurd collecting begun
  next => rfl

/-- What every change of a lookup keeps, and what does not speak of the definitions and the phase,
survives every run. -/
theorem Stable.run {holds : Resolver → Prop} (stable : Stable holds)
    (blind : ∀ r definitions phase, holds r → holds { r with definitions, phase })
    (calls : List Call) {r : Resolver} (h : holds r) : holds (run calls r) := by
  induction calls generalizing r with
  | nil => exact h
  | cons c rest ih =>
    refine ih ?_
    cases c with
    | define d =>
      simp only [Call.after, Resolver.define, Action.on_bind, Action.on_get]
      split
      · exact h
      · exact blind r _ r.phase h
    | finish =>
      simp only [Call.after, Resolver.finish]
      split
      · exact blind r _ _ h
      · exact h
    | resolve request => exact stable.preserves_resolve request r h
    | cite request => exact stable.preserves_cite request r h
    | findSection spec id status => exact stable.preserves_findSection spec id status r h

/-- What the resolver of a document may become. Its bibliography and its messages are open to change
from outside. -/
inductive Reachable (metadata : Metadata) : Resolver → Prop
  | ofStores (anchors : AnchorStore) (biblio : BiblioStore) (config : Config) :
    Reachable metadata (Resolver.ofStores anchors biblio config metadata)
  | call {r : Resolver} (c : Call) : Reachable metadata r → Reachable metadata (c.after r)
  | biblio {r : Resolver} (biblio : BiblioStore) :
    Reachable metadata r → Reachable metadata { r with biblio }
  | messages {r : Resolver} (messages : MessageLog) :
    Reachable metadata r → Reachable metadata { r with messages }

/-- The resolver goes by the names of its document. -/
structure Named (metadata : Metadata) (r : Resolver) : Prop where
  shortname : r.shortname = Text.lowercase (Text.trim metadata.shortname)
  versionedName : r.versionedName = Text.lowercase metadata.versionedName

/-- The index is sealed once the first phase is over, and holds definitions of the document alone. -/
structure Consistent (metadata : Metadata) (r : Resolver) : Prop extends Named metadata r where
  isSealed : r.phase ≠ .collecting → r.definitions.isSealed = true
  own : ∀ c ∈ r.definitions.candidates, c.isLocal = true

/-- Nothing has been defined or looked up. -/
structure Fresh (metadata : Metadata) (r : Resolver) : Prop extends Named metadata r where
  phase : r.phase = .collecting
  definitions : r.definitions = {}

variable {metadata : Metadata}

section OfStores

variable {α : Type} {holds : Resolver → Prop} {use : Resolver → α → Resolver}

theorem holds_takeOver (result : Except Failure α)
    (uses : ∀ r a, result = .ok a → holds r → holds (use r a))
    (reports : ∀ r failure, holds r → holds (r.report .fatal (Failure.message failure) none))
    {r : Resolver} (h : holds r) : holds (r.takeOver use result) := by
  cases result with
  | ok a => exact uses r a rfl h
  | error failure => exact reports r failure h

theorem holds_takeOverBlock (parse : List String → Option Nat → Except Failure α)
    (lines : List String) (uses : ∀ r a, parse lines none = .ok a → holds r → holds (use r a))
    (reports : ∀ r failure, holds r → holds (r.report .fatal (Failure.message failure) none))
    {r : Resolver} (h : holds r) : holds (r.takeOverBlock use parse lines) := by
  rw [takeOverBlock]
  split
  · exact h
  · exact holds_takeOver _ uses reports h

/-- What holds before the metadata is read, and through all that is read from it, holds of a new
resolver. -/
theorem holds_ofStores {anchors : AnchorStore} {biblio : BiblioStore} {config : Config}
    {metadata : Metadata} (started : holds (start anchors biblio config metadata))
    (defaults : ∀ r rules, holds r → holds (r.addDefaults rules))
    (ignored : ∀ r specs, Defaults.parseIgnoredSpecs metadata.ignoredSpecLines none = .ok specs →
      holds r → holds (r.addIgnored specs))
    (reports : ∀ r failure, holds r → holds (r.report .fatal (Failure.message failure) none)) :
    holds (ofStores anchors biblio config metadata) := by
  have values (values : List String) (r : Resolver) (h : holds r) : holds (values.foldl
      (fun r value => r.takeOver addDefaults (Defaults.parseMetadata value)) r) := by
    induction values generalizing r with
    | nil => exact h
    | cons value rest ih => exact ih _ (holds_takeOver _ (fun r rules _ => defaults r rules) reports h)
  -- Three kinds of input are read in turn: values, a block of defaults, a block of ignored specs.
  have read := holds_takeOverBlock Defaults.parseBlock metadata.linkDefaultLines
    (fun r rules _ => defaults r rules) reports (values metadata.linkDefaults _ started)
  exact holds_takeOverBlock Defaults.parseIgnoredSpecs metadata.ignoredSpecLines ignored reports read

end OfStores

section Anchors

/-! What is read from a document does not depend on the anchors. -/

variable {α : Type} (store : AnchorStore) (use : Resolver → α → Resolver)

theorem takeOver_anchors
    (blind : ∀ r a, use { r with anchors := store } a = { use r a with anchors := store })
    (r : Resolver) (result : Except Failure α) :
    ({ r with anchors := store } : Resolver).takeOver use result =
      { r.takeOver use result with anchors := store } := by
  cases result with
  | ok a => exact blind r a
  | error failure => rfl

theorem takeOverBlock_anchors
    (blind : ∀ r a, use { r with anchors := store } a = { use r a with anchors := store })
    (r : Resolver) (parse : List String → Option Nat → Except Failure α) (lines : List String) :
    ({ r with anchors := store } : Resolver).takeOverBlock use parse lines =
      { r.takeOverBlock use parse lines with anchors := store } := by
  rw [takeOverBlock, takeOverBlock]
  split
  · rfl
  · exact takeOver_anchors store use blind r _

theorem foldl_takeOver_anchors (values : List String) (r : Resolver) :
    values.foldl (fun r value => r.takeOver addDefaults (Defaults.parseMetadata value))
        { r with anchors := store } =
      { values.foldl (fun r value => r.takeOver addDefaults (Defaults.parseMetadata value)) r with
        anchors := store } := by
  induction values generalizing r with
  | nil => rfl
  | cons value rest ih =>
    rw [List.foldl_cons, List.foldl_cons, takeOver_anchors store addDefaults fun _ _ => rfl, ih]

theorem ofStores_anchors {full : AnchorStore} (specs : store.specs = full.specs)
    (biblio : BiblioStore) (config : Config) (metadata : Metadata) :
    ofStores store biblio config metadata =
      { ofStores full biblio config metadata with
        anchors := store.suppress metadata.shortname } := by
  have started : start store biblio config metadata =
      { start full biblio config metadata with anchors := store.suppress metadata.shortname } := by
    rw [start, start, specs]
  rw [ofStores, ofStores, started, foldl_takeOver_anchors]
  simp only
  rw [takeOverBlock_anchors _ addDefaults fun _ _ => rfl,
    takeOverBlock_anchors _ addIgnored fun _ _ => rfl]

end Anchors

theorem fresh_ofStores (anchors : AnchorStore) (biblio : BiblioStore) (config : Config)
    (metadata : Metadata) : Fresh metadata (ofStores anchors biblio config metadata) := by
  apply holds_ofStores
  · exact ⟨⟨rfl, rfl⟩, rfl, rfl⟩
  · intro r rules fresh
    exact { fresh with }
  · intro r specs _ fresh
    exact { fresh with }
  · intro r failure fresh
    exact { fresh with }

/-- The resolver reads anchors and bibliography from the given sources. -/
structure Reads (anchors biblio : DataSource) (r : Resolver) : Prop where
  anchors : r.anchors.source = anchors
  biblio : r.biblio.source = biblio

theorem reads_ofStores (anchors : AnchorStore) (biblio : BiblioStore) (config : Config)
    (metadata : Metadata) :
    Reads anchors.source biblio.source (ofStores anchors biblio config metadata) := by
  apply holds_ofStores
  · refine ⟨?_, rfl⟩
    simp only [start, AnchorStore.suppress]
    split <;> rfl
  · intro r rules reads
    exact { reads with }
  · intro r specs _ reads
    exact { reads with }
  · intro r failure reads
    exact { reads with }

section Reads

variable {anchors biblio : DataSource}

theorem stable_reads : Stable (Reads anchors biblio) := by
  intro r s change reads
  cases change with
  | begin | noted => exact { reads with }
  | opened key => exact { reads with anchors := (AnchorStore.opened_source _ _).trans reads.anchors }
  | readInto spec =>
    refine { reads with anchors := ?_ }
    rw [AnchorStore.readInto_eq]
    exact reads.anchors
  | lookup request =>
    have looked := BiblioStore.failsOnly_lookup request r.defaultStatus r.biblio reads.biblio
    exact { reads with biblio := looked.2 }

theorem Reads.run {r : Resolver} (reads : Reads anchors biblio r) (calls : List Call) :
    Reads anchors biblio (run calls r) :=
  stable_reads.run (fun _ _ _ reads => { reads with }) calls reads

end Reads

theorem stable_consistent : Stable (Consistent metadata) := by
  intro r s change consistent
  cases change with
  | begin complete =>
    exact { consistent with isSealed := fun _ => consistent.isSealed (by rw [complete]; decide) }
  | opened | readInto | lookup | noted => exact { consistent with }

theorem Consistent.define {r : Resolver} (consistent : Consistent metadata r) (d : Definition) :
    Consistent metadata ((define d).on r).2 := by
  simp only [Resolver.define, Action.on_bind, Action.on_get]
  split
  · exact consistent
  · -- An insertion neither seals the index nor breaks the seal, also if it fails.
    have kept := DefinitionIndex.preserves_insert d r.definitions ⟨rfl, consistent.own⟩
    exact { consistent with
      isSealed := fun begun => kept.isSealed.trans (consistent.isSealed begun)
      own := kept.own }

theorem Consistent.finish {r : Resolver} (consistent : Consistent metadata r) :
    Consistent metadata r.finish := by
  rw [Resolver.finish]
  split
  · exact { consistent with isSealed := fun _ => rfl }
  · exact consistent

theorem Consistent.after {r : Resolver} (consistent : Consistent metadata r) (c : Call) :
    Consistent metadata (c.after r) := by
  cases c with
  | define d => exact consistent.define d
  | finish => exact consistent.finish
  | resolve request => exact stable_consistent.preserves_resolve request r consistent
  | cite request => exact stable_consistent.preserves_cite request r consistent
  | findSection spec id status =>
    exact stable_consistent.preserves_findSection spec id status r consistent

theorem Reachable.consistent {r : Resolver} (reached : Reachable metadata r) :
    Consistent metadata r := by
  induction reached with
  | ofStores anchors biblio config =>
    have fresh := fresh_ofStores anchors biblio config metadata
    -- Nothing is sealed yet, and nothing is indexed.
    refine { fresh with isSealed := fun begun => absurd fresh.phase begun, own := ?_ }
    intro c member
    rw [fresh.definitions] at member
    exact absurd member List.not_mem_nil
  | call c _ ih => exact ih.after c
  | biblio _ _ ih => exact { ih with }
  | messages _ _ ih => exact { ih with }

theorem Reachable.run {r : Resolver} (reached : Reachable metadata r) (calls : List Call) :
    Reachable metadata (run calls r) := by
  induction calls generalizing r with
  | nil => exact reached
  | cons c rest ih => exact ih (reached.call c)

theorem reachable_run (anchors : AnchorStore) (biblio : BiblioStore) (config : Config)
    (metadata : Metadata) (calls : List Call) :
    Reachable metadata (Resolver.run calls (ofStores anchors biblio config metadata)) :=
  (Reachable.ofStores anchors biblio config).run calls

/-- A document that gives no link defaults has no rules for its links. -/
theorem Reachable.defaults_eq_empty {r : Resolver} (reached : Reachable metadata r)
    (noValues : metadata.linkDefaults = []) (noLines : metadata.linkDefaultLines = []) :
    r.defaults = {} := by
  induction reached with
  | ofStores anchors biblio config =>
    simp only [Resolver.ofStores, noValues, noLines, List.foldl_nil, takeOverBlock,
      List.isEmpty_nil, if_true]
    -- What is left to read is the block of ignored specs.
    split
    · rfl
    · cases Defaults.parseIgnoredSpecs metadata.ignoredSpecLines none with
      | ok specs => rfl
      | error failure => rfl
  | call c _ ih =>
    have stable : Stable fun r => r.defaults = {} := by
      intro r s change none
      cases change <;> exact none
    exact stable.run (fun _ _ _ none => none) [c] ih
  | biblio _ _ ih => exact ih
  | messages _ _ ih => exact ih

end Resolver

end SpecLink
