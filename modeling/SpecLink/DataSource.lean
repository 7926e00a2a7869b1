import SpecLink.Failure
import SpecLink.Json.Reader
import SpecLink.Json.Record
import SpecLink.LinkText

/-!
# Sources of data files

A source answers by path, relative to its root and with slashes between the parts. A file may be
missing; reading it may fail. Files held in memory never fail.
-/
namespace SpecLink

structure DataSource where
  /-- The source as it is named in messages. -/
  name : String
  /-- The text of a file, or none if there is no such file. -/
  fetch : String → Except Failure (Option String)
  /-- The names of the files directly inside a directory, ascending. -/
  list : String → List String

namespace DataSource

/-- The path of a directory with one slash at its end. -/
def directoryStart (directory : String) : String :=
  String.ofList ((directory.toList.reverse.dropWhile (· == '/')).reverse ++ ['/'])

/-- The source that holds the given files. -/
def ofFiles (files : SortedMap String) : DataSource where
  name := "<memory>"
  fetch path := .ok (files.get? path)
  list directory := files.keys.filterMap fun path =>
    match Text.stripStart? (directoryStart directory) path with
    | some rest => if rest.toList.contains '/' then none else some rest
    | none => none

end DataSource

/-- Reads a data file of the given shape. -/
def readDataFile {α : Type} (read : Json → Option α) (path contents : String) :
    Except Failure α :=
  match (Json.parse? contents).bind read with
  | some a => .ok a
  | none => .error (.parse .dataFile path none)

end SpecLink
