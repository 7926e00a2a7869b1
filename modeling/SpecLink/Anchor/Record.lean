import SpecLink.Candidate
import SpecLink.LinkText

/-!
# Anchor records

The anchor database lists under each text the anchors of published specs. A record whose kind is
not known stands for no candidate.
-/
namespace SpecLink

structure AnchorRecord where
  kind : String
  specId : String
  shortname : String
  level : Option SpecLevel := none
  /-- The terms that the anchor is for. -/
  scope : List String := []
  exported : Bool := true
  normative : Bool := true
  currentUrl : Option String := none
  snapshotUrl : Option String := none
  deriving DecidableEq, Repr

namespace AnchorRecord

def toJson (r : AnchorRecord) : Json := .record [
  ("kind", .text r.kind),
  ("spec_id", .text r.specId),
  ("shortname", .text r.shortname),
  ("level", .option SpecLevel.toJson r.level),
  ("for", .list .text r.scope),
  ("exported", .bool r.exported),
  ("normative", .bool r.normative),
  ("current_url", .option .text r.currentUrl),
  ("snapshot_url", .option .text r.snapshotUrl)]

def ofJson? (j : Json) : Option AnchorRecord := do
  match ← j.slots? ["kind", "spec_id", "shortname", "level", "for", "exported", "normative",
      "current_url", "snapshot_url"] with
  | [kind, specId, shortname, level, scope, exported, normative, currentUrl, snapshotUrl] =>
    return {
      kind := ← kind.required Json.text?
      specId := ← specId.required Json.text?
      shortname := ← shortname.required Json.text?
      level := ← level.orNone SpecLevel.ofJson?
      scope := ← scope.withDefault [] Json.texts?
      exported := ← exported.withDefault true Json.bool?
      normative := ← normative.withDefault true Json.bool?
      currentUrl := ← currentUrl.orNone Json.text?
      snapshotUrl := ← snapshotUrl.orNone Json.text? }
  | _ => none

/-- The candidate that a record under a text stands for. -/
def candidate? (text : String) (r : AnchorRecord) : Option Candidate :=
  (DefinitionKind.ofName? r.kind).map fun kind => {
    text := LinkText.normalize text
    kind
    origin := .external r.specId r.shortname r.level ⟨r.currentUrl, r.snapshotUrl⟩
    scope := .ofList (r.scope.map Text.trim)
    exported := r.exported
    normative := r.normative }

/-- The candidates of a shard, text by text. -/
def candidates (shard : SortedMap (List AnchorRecord)) : List Candidate :=
  shard.entries.flatMap fun e => e.2.filterMap (candidate? e.1)

/-- Reads a shard: a list of records for each text. -/
def shardOfJson? (j : Json) : Option (SortedMap (List AnchorRecord)) :=
  j.map? (Json.list? ofJson?)

end AnchorRecord

end SpecLink
