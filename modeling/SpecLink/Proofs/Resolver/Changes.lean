import SpecLink.Proofs.Anchor.Shards
import SpecLink.Resolver

/-!
# What lookups change

Everything that a lookup does to a resolver is a sequence of a few changes, named by `Change`. A
property that each of them keeps survives every lookup, also one that fails halfway. Main
statements: `Stable.preserves_resolve`, `Stable.preserves_cite` and `Stable.preserves_findSection`.
-/
namespace SpecLink.Resolver

/-- The changes that lookups are made of. -/
inductive Change : Resolver → Resolver → Prop
  | begin {r : Resolver} (complete : r.phase = .complete) : Change r { r with phase := .resolving }
  | opened {r : Resolver} (key : String) : Change r { r with anchors := r.anchors.opened key }
  | readInto {r : Resolver} (spec : String) : Change r { r with anchors := r.anchors.readInto spec }
  | lookup {r : Resolver} (request : BiblioRequest) :
    Change r { r with biblio := ((BiblioStore.lookup request r.defaultStatus).on r.biblio).2 }
  | noted {r : Resolver} (messages : MessageLog) (usages : Usages) :
    Change r { r with messages, usages }

/-- Every change keeps the property. -/
def Stable (holds : Resolver → Prop) : Prop := ∀ {r s}, Change r s → holds r → holds s

/-- The log once what there is to say about a lookup is reported. -/
def remarked (log : MessageLog) :
    Except Failure (Option BiblioEntry × Option Diagnostic) → MessageLog
  | .ok (_, some d) => log.report d
  | _ => log

theorem lookUpBiblio_on (request : BiblioRequest) (r : Resolver) :
    (lookUpBiblio request).on r =
      (((BiblioStore.lookup request r.defaultStatus).on r.biblio).1.map Prod.fst,
        { r with
          biblio := ((BiblioStore.lookup request r.defaultStatus).on r.biblio).2
          messages := remarked r.messages
            ((BiblioStore.lookup request r.defaultStatus).on r.biblio).1 }) := by
  simp only [lookUpBiblio, onBiblio, Action.on_bind, Action.on_get, Action.on_within]
  cases (BiblioStore.lookup request r.defaultStatus).on r.biblio with
  | mk answer store =>
    cases answer with
    | error failure => rfl
    | ok found =>
      obtain ⟨entry, remark⟩ := found
      cases remark <;> rfl

/-- The usages once the entry that a lookup answers with is cited. -/
def cited (usages : Usages) (normative : Bool) :
    Except Failure (Option BiblioEntry × Option Diagnostic) → Usages
  | .ok (some e, _) => usages.recordBiblio e normative
  | _ => usages

theorem cite_on (request : BiblioRequest) (r : Resolver) :
    (cite request).on r =
      (((BiblioStore.lookup request r.defaultStatus).on r.biblio).1.map Prod.fst,
        { r with
          biblio := ((BiblioStore.lookup request r.defaultStatus).on r.biblio).2
          messages := remarked r.messages
            ((BiblioStore.lookup request r.defaultStatus).on r.biblio).1
          usages := cited r.usages request.normative
            ((BiblioStore.lookup request r.defaultStatus).on r.biblio).1 }) := by
  simp only [cite, Action.on_bind, lookUpBiblio_on]
  cases ((BiblioStore.lookup request r.defaultStatus).on r.biblio).1 with
  | error failure => rfl
  | ok found =>
    obtain ⟨entry, remark⟩ := found
    cases entry <;> rfl

open SpecLink.Action

variable {holds : Resolver → Prop}

/-- Gathering candidates opens shards and changes nothing else. -/
theorem preserves_gather_of_opened
    (opens : ∀ r key, holds r → holds { r with anchors := r.anchors.opened key }) (kind : LinkKind)
    (texts : List String) : Preserves holds (gather kind texts) := by
  induction texts with
  | nil => exact preserves_pure _
  | cons text rest ih =>
    refine preserves_bind ?_ fun found => ?_
    · refine preserves_bind preserves_get fun r => ?_
      refine preserves_bind (preserves_ofExcept _) fun own => ?_
      refine preserves_bind (preserves_within fun s h => ?_) fun foreign => preserves_pure _
      rw [AnchorStore.find_on]
      exact opens s (LinkText.normalize text) h
    · cases found with
      -- The search goes on only after a text without candidates.
      | nil => exact ih
      | cons c more => exact preserves_pure _

namespace Stable

theorem noting (stable : Stable holds) {change : Resolver → Resolver}
    (notes : ∀ r, ∃ messages usages, change r = { r with messages, usages }) :
    Preserves holds (modify change : Action Resolver PUnit) := by
  refine preserves_modify fun r h => ?_
  obtain ⟨messages, usages, same⟩ := notes r
  rw [same]
  exact stable (.noted messages usages) h

theorem preserves_beginResolving (stable : Stable holds) (text : String) :
    Preserves holds (beginResolving text) := by
  intro r h
  simp only [beginResolving, on_bind, on_get]
  cases phase : r.phase with
  | collecting => exact h
  | complete => exact stable (.begin phase) h
  | resolving => exact h

theorem preserves_gather (stable : Stable holds) (kind : LinkKind) (texts : List String) :
    Preserves holds (gather kind texts) :=
  preserves_gather_of_opened (fun _ key h => stable (.opened key) h) kind texts

theorem preserves_lookUpBiblio (stable : Stable holds) (request : BiblioRequest) :
    Preserves holds (lookUpBiblio request) := by
  intro r h
  rw [lookUpBiblio_on]
  -- What was loaded before a failure stays loaded.
  exact stable (.noted _ r.usages) (stable (.lookup request) h)

theorem preserves_recordTarget (stable : Stable holds) (query : LinkQuery) (normative : Bool)
    (target : Candidate) : Preserves holds (recordTarget query normative target) := by
  rw [recordTarget]
  cases target.origin with
  -- Nothing is recorded of the document itself.
  | document id line => exact preserves_pure _
  | external specId shortname level urls =>
    refine preserves_bind (stable.noting fun r => ⟨_, _, rfl⟩) fun _ => ?_
    refine preserves_bind (stable.preserves_lookUpBiblio _) fun entry => ?_
    cases entry with
    | none => exact preserves_pure _
    | some e => exact stable.noting fun r => ⟨_, _, rfl⟩

theorem reportFailure_notes (request : LinkRequest) (query : LinkQuery) (stage : SearchStage)
    (r : Resolver) : ∃ messages usages,
      reportFailure request query stage r = { r with messages, usages } := by
  rw [reportFailure]
  split
  · exact ⟨_, _, rfl⟩
  · exact ⟨r.messages, r.usages, rfl⟩

theorem reportChoice_notes (request : LinkRequest) (choice : Choice) (r : Resolver) :
    ∃ messages usages, reportChoice request choice r = { r with messages, usages } := by
  rw [reportChoice]
  cases choice.warning with
  | none => exact ⟨r.messages, r.usages, rfl⟩
  | some text =>
    simp only
    split
    · exact ⟨_, _, rfl⟩
    · exact ⟨r.messages, r.usages, rfl⟩

theorem preserves_resolve (stable : Stable holds) (request : LinkRequest) :
    Preserves holds (resolve request) := by
  refine preserves_bind (stable.preserves_beginResolving request.text) fun _ => ?_
  refine preserves_bind preserves_get fun r => ?_
  simp only
  split
  -- Custom properties are refused before anything is looked up.
  · exact preserves_throw _
  · refine preserves_bind (stable.preserves_gather _ _) fun found => ?_
    refine preserves_bind preserves_get fun s => ?_
    cases Selection.select s.policy (r.queryOf request) found with
    | error stage =>
      refine preserves_bind (stable.noting (reportFailure_notes request _ stage)) fun _ => ?_
      exact preserves_throw _
    | ok choice =>
      refine preserves_bind (stable.noting (reportChoice_notes request choice)) fun _ => ?_
      refine preserves_bind (stable.preserves_recordTarget _ _ _) fun _ => preserves_pure _

theorem preserves_cite (stable : Stable holds) (request : BiblioRequest) :
    Preserves holds (cite request) := by
  refine preserves_bind (stable.preserves_lookUpBiblio request) fun entry => ?_
  cases entry with
  | none => exact preserves_pure _
  | some e =>
    exact preserves_bind (stable.noting fun r => ⟨_, _, rfl⟩) fun _ => preserves_pure _

theorem preserves_findSection (stable : Stable holds) (spec id : String) (status : Option Status) :
    Preserves holds (findSection spec id status) := by
  refine preserves_bind (preserves_within fun r h => ?_) fun table => ?_
  · rw [AnchorStore.headingsOf_on]
    exact stable (.readInto _) h
  · refine preserves_bind preserves_get fun r => ?_
    refine preserves_bind (preserves_ofExcept _) fun heading => ?_
    exact preserves_bind (stable.noting fun r => ⟨_, _, rfl⟩) fun _ => preserves_pure _

end Stable

end SpecLink.Resolver
