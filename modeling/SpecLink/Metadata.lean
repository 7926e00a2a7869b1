import SpecLink.Level
import SpecLink.Status

/-!
# Metadata of a document

The short name, level and status of a document, and what it says about ambiguous terms and about
specs that it does not link to.
-/
namespace SpecLink

structure Metadata where
  shortname : String := ""
  level : Option SpecLevel := none
  /-- The publication status of the document, such as `ED` or `WD`. -/
  status : String := ""
  /-- The status that links go to, if it does not follow from the document's own. -/
  linkStatus : Option Status := none
  /-- Values of the metadata `Link Defaults`. -/
  linkDefaults : List String := []
  /-- The lines of blocks of link defaults. -/
  linkDefaultLines : List String := []
  /-- The lines of blocks of ignored specs. -/
  ignoredSpecLines : List String := []
  deriving DecidableEq, Repr, Inhabited

namespace Metadata

/-- The status that links go to which name none. -/
def defaultStatus (m : Metadata) : Status := m.linkStatus.getD (Status.forDocument m.status)

/-- The short name with the level. -/
def versionedName (m : Metadata) : String :=
  match m.level with
  | some level => m.shortname ++ "-" ++ level.display
  | none => m.shortname

def toJson (m : Metadata) : Json := .record [
  ("shortname", .text m.shortname),
  ("level", .option SpecLevel.toJson m.level),
  ("status", .text m.status),
  ("default_ref_status", .option (fun s => .text s.name) m.linkStatus),
  ("link_defaults", .list .text m.linkDefaults),
  ("link_default_blocks", .list .text m.linkDefaultLines),
  ("ignored_spec_blocks", .list .text m.ignoredSpecLines)]

def ofJson? (j : Json) : Option Metadata := do
  match ← j.slots? ["shortname", "level", "status", "default_ref_status", "link_defaults",
      "link_default_blocks", "ignored_spec_blocks"] with
  | [shortname, level, status, linkStatus, linkDefaults, linkDefaultLines, ignoredSpecLines] =>
    return {
      shortname := ← shortname.withDefault "" Json.text?
      level := ← level.orNone SpecLevel.ofJson?
      status := ← status.withDefault "" Json.text?
      linkStatus := ← linkStatus.orNone (Json.name? Status.ofName?)
      linkDefaults := ← linkDefaults.withDefault [] Json.texts?
      linkDefaultLines := ← linkDefaultLines.withDefault [] Json.texts?
      ignoredSpecLines := ← ignoredSpecLines.withDefault [] Json.texts? }
  | _ => none

end Metadata

end SpecLink
