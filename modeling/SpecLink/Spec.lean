import SpecLink.Level

/-!
# Specs

What the table of specs knows about a spec: where its draft and its snapshot are published, the
short name it shares with its other levels, its title and its level.
-/
namespace SpecLink

structure SpecInfo where
  currentUrl : Option String := none
  snapshotUrl : Option String := none
  shortname : String := ""
  title : Option String := none
  level : Option SpecLevel := none
  deriving DecidableEq, Repr, Inhabited

namespace SpecInfo

def toJson (spec : SpecInfo) : Json := .record [
  ("current_url", .option .text spec.currentUrl),
  ("snapshot_url", .option .text spec.snapshotUrl),
  ("shortname", .text spec.shortname),
  ("title", .option .text spec.title),
  ("level", .option SpecLevel.toJson spec.level)]

def ofJson? (j : Json) : Option SpecInfo := do
  match ← j.slots? ["current_url", "snapshot_url", "shortname", "title", "level"] with
  | [currentUrl, snapshotUrl, shortname, title, level] =>
    return {
      currentUrl := ← currentUrl.orNone Json.text?
      snapshotUrl := ← snapshotUrl.orNone Json.text?
      shortname := ← shortname.withDefault "" Json.text?
      title := ← title.orNone Json.text?
      level := ← level.orNone SpecLevel.ofJson? }
  | _ => none

end SpecInfo

/-- The specs of a table, by id. -/
abbrev SpecTable := SortedMap SpecInfo

namespace SpecTable

def toJson (table : SpecTable) : Json :=
  .record (table.entries.map fun e => (e.1, e.2.toJson))

def ofJson? (j : Json) : Option SpecTable := j.map? SpecInfo.ofJson?

end SpecTable

end SpecLink
