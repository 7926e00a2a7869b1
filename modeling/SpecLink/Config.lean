import SpecLink.Json.Record
import SpecLink.Messages
import SpecLink.Path

/-!
# Configuration of a project

Settings that hold for all documents of a project: where the data files are, when a build gives up,
and which specs links do not go to.
-/
namespace SpecLink

structure Config where
  /-- The version of the format of the settings. -/
  version : UInt32
  /-- The directory of the data files, relative to the project. -/
  dataDir : String
  abortLevel : AbortLevel := .fatal
  ignoredSpecs : List String := []
  /-- Pairs of a spec and the spec that replaces it. -/
  replacedSpecs : List (String × String) := []
  /-- Kept for older files; nothing depends on it. -/
  testing : Bool := true
  deriving DecidableEq, Repr

namespace Config

/-- The data directory of projects that name none, inside the user's directory of data. -/
def defaultDataDir (dataHome : String) : String :=
  Path.join (Path.join dataHome "bikeshed-refs") "spec-data"

/-- The configuration of a project that has none. -/
def initial (dataHome : String) : Config where
  version := 1
  dataDir := defaultDataDir dataHome
  replacedSpecs := [("css21", "css-display-3")]

/-- The data directory as seen from the project's directory. -/
def dataPath (c : Config) (root : String) : String := Path.join root c.dataDir

def toJson (c : Config) : Json := .record [
  ("version", .nat c.version.toNat),
  ("data_dir", .text c.dataDir),
  ("die_on", .text c.abortLevel.name),
  ("ignored_specs", .list .text c.ignoredSpecs),
  ("replaced_specs", .list (fun pair => .array [.text pair.1, .text pair.2]) c.replacedSpecs),
  ("testing", .bool c.testing)]

def ofJson? (j : Json) : Option Config := do
  match ← j.slots? ["version", "data_dir", "die_on", "ignored_specs", "replaced_specs",
      "testing"] with
  | [version, dataDir, abortLevel, ignoredSpecs, replacedSpecs, testing] =>
    return {
      version := ← version.required Json.word?
      dataDir := ← dataDir.required Json.text?
      abortLevel := ← abortLevel.withDefault .fatal (Json.name? AbortLevel.ofName?)
      ignoredSpecs := ← ignoredSpecs.withDefault [] Json.texts?
      replacedSpecs := ← replacedSpecs.withDefault []
        (Json.list? (Json.pair? Json.text? Json.text?))
      testing := ← testing.withDefault true Json.bool? }
  | _ => none

end Config

end SpecLink
