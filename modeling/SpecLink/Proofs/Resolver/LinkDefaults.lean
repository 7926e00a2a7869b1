import SpecLink.Proofs.Defaults.Clauses
import SpecLink.Proofs.Defaults.Spellings
import SpecLink.Proofs.Resolver.Run

/-!
# The link defaults of a new resolver

The metadata of a document is read value by value, once. What can be read of it goes into the table
of rules, in order, and what cannot is reported as fatal. A value stands or falls as a whole: with
one malformed clause none of its rules counts. Main statement: `defaults_of_ofStores`.
-/
namespace SpecLink

/-- The report of something that could not be read. -/
def Failure.report (failure : Failure) : Diagnostic := ⟨.fatal, failure.message, none⟩

/-- Reports of one key are one report, and the log shows the first of them. -/
theorem MessageLog.report_mem_diagnostics {log : MessageLog} {faults : List Failure}
    (all : log.reports = faults.map Failure.report) {failure : Failure} (member : failure ∈ faults) :
    failure.report ∈ log.diagnostics := by
  have reported : failure.report ∈ log.reports := all ▸ List.mem_map_of_mem member
  obtain ⟨shown, kept, same⟩ : ∃ shown ∈ log.diagnostics, shown.key = failure.report.key :=
    Grouping.exists_mem_firstOfEach reported
  have listed := Grouping.mem_of_mem_firstOfEach kept
  rw [all] at listed
  obtain ⟨other, -, rfl⟩ := List.mem_map.1 listed
  have texts : other.message = failure.message := by
    simpa [Diagnostic.key, Diagnostic.wording, Failure.report] using same
  have equal : other.report = failure.report := by rw [Failure.report, texts, Failure.report]
  exact equal ▸ kept

namespace Resolver

open Defaults

/-- The resolver has become another one by some rules and by the reports of some failures. -/
structure TakesOver (r s : Resolver) (rules : List DefaultRule) (faults : List Failure) : Prop where
  defaults : s.defaults = r.defaults.addAll rules
  reports : s.messages.reports = r.messages.reports ++ faults.map Failure.report

section TakesOver

variable {r s t : Resolver} {rules others : List DefaultRule} {faults more : List Failure}

theorem TakesOver.trans (first : TakesOver r s rules faults) (second : TakesOver s t others more) :
    TakesOver r t (rules ++ others) (faults ++ more) where
  defaults := by
    rw [second.defaults, first.defaults]
    exact List.foldl_append.symm
  reports := by
    rw [second.reports, first.reports, List.map_append, List.append_assoc]

theorem takesOver_takeOver (r : Resolver) (result : Except Failure (List DefaultRule)) :
    TakesOver r (r.takeOver addDefaults result) (accepted result) (fault? result).toList := by
  cases result with
  | ok rules => exact ⟨rfl, by simp [takeOver, addDefaults, fault?]⟩
  | error failure => exact ⟨rfl, rfl⟩

theorem takesOver_values (r : Resolver) (values : List String) :
    TakesOver r (values.foldl (fun r value => r.takeOver addDefaults (parseMetadata value)) r)
      (values.flatMap rulesOfClauses) (values.filterMap firstFault?) := by
  induction values generalizing r with
  | nil => exact ⟨rfl, (List.append_nil _).symm⟩
  | cons value rest ih =>
    have read := (takesOver_takeOver r (parseMetadata value)).trans (ih _)
    rw [accepted_parseMetadata, fault?_parseMetadata] at read
    rw [List.foldl_cons, List.flatMap_cons, List.filterMap_cons]
    cases fault : firstFault? value with
    | none => simpa [fault] using read
    | some failure => simpa [fault] using read

theorem takesOver_block (r : Resolver) (lines : List String) :
    TakesOver r (r.takeOverBlock addDefaults parseBlock lines) (accepted (parseBlock lines none))
      (fault? (parseBlock lines none)).toList := by
  cases lines with
  | nil => exact ⟨rfl, (List.append_nil _).symm⟩
  | cons line rest => exact takesOver_takeOver r _

theorem takesOver_ignored (r : Resolver) (lines : List String) :
    TakesOver r (r.takeOverBlock addIgnored parseIgnoredSpecs lines) []
      (fault? (parseIgnoredSpecs lines none)).toList := by
  cases lines with
  | nil => exact ⟨rfl, (List.append_nil _).symm⟩
  | cons line rest =>
    rw [takeOverBlock, if_neg (by simp)]
    cases parseIgnoredSpecs (line :: rest) none with
    | ok specs => exact ⟨rfl, (List.append_nil _).symm⟩
    | error failure => exact ⟨rfl, rfl⟩

end TakesOver

/-- The rules of the values without malformed clauses, and those of the block behind them. -/
def rulesOfMetadata (metadata : Metadata) : List DefaultRule :=
  metadata.linkDefaults.flatMap rulesOfClauses ++ accepted (parseBlock metadata.linkDefaultLines none)

/-- Why values, the block and the block of ignored specs could not be read. -/
def faultsOfMetadata (metadata : Metadata) : List Failure :=
  metadata.linkDefaults.filterMap firstFault? ++
    (fault? (parseBlock metadata.linkDefaultLines none)).toList ++
    (fault? (parseIgnoredSpecs metadata.ignoredSpecLines none)).toList

theorem takesOver_ofStores (anchors : AnchorStore) (biblio : BiblioStore) (config : Config)
    (metadata : Metadata) : TakesOver (start anchors biblio config metadata)
      (ofStores anchors biblio config metadata) (rulesOfMetadata metadata)
      (faultsOfMetadata metadata) := by
  have read := ((takesOver_values (start anchors biblio config metadata) metadata.linkDefaults).trans
    (takesOver_block _ metadata.linkDefaultLines)).trans
      (takesOver_ignored _ metadata.ignoredSpecLines)
  rw [List.append_nil] at read
  exact read

/-- A new resolver knows the rules of exactly those values that hold no malformed clause, and of the
block. Every value that holds one is reported as fatal, by the first such clause. -/
theorem defaults_of_ofStores (anchors : AnchorStore) (biblio : BiblioStore) (config : Config)
    (metadata : Metadata) :
    let r := ofStores anchors biblio config metadata
    r.defaults = DefaultTable.addAll {} (rulesOfMetadata metadata) ∧
    (∀ value ∈ metadata.linkDefaults, firstFault? value = none →
      ∀ clause ∈ Text.splitTopLevel ',' value, ∃ rules, parseMetadata clause = .ok rules ∧
        ∀ rule ∈ rules, rule ∈ r.defaults.rulesFor (LinkText.normalize rule.term)) ∧
    ∀ value ∈ metadata.linkDefaults, ∀ clause ∈ Text.splitTopLevel ',' value,
      ∀ failure, parseMetadata clause = .error failure →
        ∃ first, firstFault? value = some first ∧
          ⟨.fatal, first.message, none⟩ ∈ r.messages.diagnostics := by
  intro r
  obtain ⟨defaults, reports⟩ := takesOver_ofStores anchors biblio config metadata
  have table : r.defaults = DefaultTable.addAll {} (rulesOfMetadata metadata) := defaults
  refine ⟨table, fun value listed intact clause member => ?_, fun value listed clause member failure
    malformed => ?_⟩
  · obtain ⟨rules, read⟩ := firstFault?_eq_none_iff.1 intact clause member
    refine ⟨rules, read, fun rule inRules => ?_⟩
    have fromClauses : rule ∈ rulesOfClauses value := by
      rw [rulesOfClauses, if_pos intact]
      exact List.mem_flatMap.2 ⟨clause, member, by rwa [read, accepted]⟩
    rw [table, DefaultTable.rulesFor_addAll, List.mem_filter]
    exact ⟨List.mem_append_left _ (List.mem_flatMap.2 ⟨value, listed, fromClauses⟩), beq_self_eq_true _⟩
  · obtain ⟨first, fault⟩ : ∃ first, firstFault? value = some first := by
      rw [← Option.ne_none_iff_exists', ne_eq, firstFault?_eq_none_iff]
      intro intact
      obtain ⟨rules, read⟩ := intact clause member
      rw [malformed] at read
      cases read
    have inFaults : first ∈ faultsOfMetadata metadata :=
      List.mem_append_left _ (List.mem_append_left _ (List.mem_filterMap.2 ⟨value, listed, fault⟩))
    exact ⟨first, fault, MessageLog.report_mem_diagnostics reports inFaults⟩

/-- A resolver without data for a document with the given link defaults. -/
def ofLinkDefaults (values : List String) : Resolver :=
  ofStores { source := .ofFiles ∅ } { source := .ofFiles ∅ } { version := 1, dataDir := "" }
    { linkDefaults := values }

/-- Of two values one holds a malformed clause. -/
theorem defaults_of_halfMalformed :
    let values := ["css-box-4 (dfn) box, css-foo-1 (value, snapshot) auto / none", "nonsense"]
    firstFault? values[0] = none ∧
      ⟨"none", "css-foo-1", .value, some .snapshot, none⟩ ∈
        (ofLinkDefaults values).defaults.rulesFor "none" ∧
      ⟨.fatal, "parse error: 'Link Defaults' is a comma-separated list of '<spec> (<dfn-type>) " ++
        "<terms>'. Got:\nnonsense (source: Link Defaults, line: None)", none⟩ ∈
          (ofLinkDefaults values).messages.diagnostics := by
  intro values
  obtain ⟨-, intact, broken⟩ := defaults_of_ofStores { source := .ofFiles ∅ }
    { source := .ofFiles ∅ } { version := 1, dataDir := "" } { linkDefaults := values }
  have fine : firstFault? values[0] = none := by decide +kernel
  have clause : " css-foo-1 (value, snapshot) auto / none" ∈ Text.splitTopLevel ',' values[0] := by
    decide +kernel
  have read : parseMetadata " css-foo-1 (value, snapshot) auto / none" =
      .ok [⟨"auto", "css-foo-1", .value, some .snapshot, none⟩,
        ⟨"none", "css-foo-1", .value, some .snapshot, none⟩] := by decide +kernel
  have normal : LinkText.normalize "none" = "none" := by decide +kernel
  have malformed : parseMetadata "nonsense" =
      .error (.parse (.defaultsClause "nonsense") metadataSource none) := by decide +kernel
  have first : firstFault? "nonsense" =
      some (.parse (.defaultsClause "nonsense") metadataSource none) := by decide +kernel
  refine ⟨fine, ?_, ?_⟩
  · obtain ⟨rules, sameRules, known⟩ := intact _ List.mem_cons_self fine _ clause
    obtain rfl := Except.ok.inj (read.symm.trans sameRules)
    have rule := known ⟨"none", "css-foo-1", .value, some .snapshot, none⟩ (by simp)
    rwa [normal] at rule
  · obtain ⟨failure, fault, shown⟩ := broken "nonsense" (by simp [values]) "nonsense"
      (by decide +kernel) _ malformed
    obtain rfl := Option.some.inj (first.symm.trans fault)
    exact shown

/-- A clause that could be read alone is lost with the malformed one behind it. -/
theorem lost_with_neighbour :
    let value := "spec-b (value) box, nonsense"
    let rule : DefaultRule := { term := "box", specId := "spec-b", kind := .value }
    "spec-b (value) box" ∈ Text.splitTopLevel ',' value ∧
      parseMetadata "spec-b (value) box" = .ok [rule] ∧
      (ofLinkDefaults [value]).defaults = {} ∧
      ¬ ∀ anchors biblio config metadata, ∀ value ∈ metadata.linkDefaults,
        ∀ clause ∈ Text.splitTopLevel ',' value, ∀ rules, parseMetadata clause = .ok rules →
          ∀ rule ∈ rules, rule ∈ (ofStores anchors biblio config metadata).defaults.rulesFor
            (LinkText.normalize rule.term) := by
  intro value rule
  have clause : "spec-b (value) box" ∈ Text.splitTopLevel ',' value := by decide +kernel
  have read : parseMetadata "spec-b (value) box" = .ok [rule] := by decide +kernel
  have empty : (ofLinkDefaults [value]).defaults = {} := by decide +kernel
  refine ⟨clause, read, empty, fun survives => ?_⟩
  have known := survives { source := .ofFiles ∅ } { source := .ofFiles ∅ }
    { version := 1, dataDir := "" } { linkDefaults := [value] } value List.mem_cons_self _ clause
    _ read rule List.mem_cons_self
  rw [← ofLinkDefaults, empty] at known
  exact absurd known List.not_mem_nil

end Resolver

end SpecLink
