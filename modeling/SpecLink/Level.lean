import SpecLink.Json.Record
import SpecLink.Text.Basic

/-!
# Levels of specs

A level such as `3` or `2.1` is a list of words, at least one, ordered number by number. A missing
level is below every level.
-/
namespace SpecLink

structure SpecLevel where
  major : UInt32
  minor : List UInt32 := []
  deriving DecidableEq, Repr, Inhabited

namespace SpecLevel

def parts (level : SpecLevel) : List UInt32 := level.major :: level.minor

/-- The level with the given parts, unless there are none. -/
def ofParts? : List UInt32 → Option SpecLevel
  | [] => none
  | major :: minor => some ⟨major, minor⟩

/-- Reads numbers separated by points. -/
def parse? (s : String) : Option SpecLevel :=
  let written := Text.trim s
  if written.isEmpty then none
  else ((Text.splitAt '.' written).mapM Text.readWord?).bind ofParts?

def display (level : SpecLevel) : String := ".".intercalate (level.parts.map Text.showWord)

/-- The first list comes before the second: the first difference decides, and a list comes before
its extensions. -/
def partsBelow : List UInt32 → List UInt32 → Bool
  | [], [] => false
  | [], _ :: _ => true
  | _ :: _, [] => false
  | a :: as, b :: bs => a < b || (a == b && partsBelow as bs)

/-- The order of levels that may be missing. -/
def isBelow : Option SpecLevel → Option SpecLevel → Bool
  | none, some _ => true
  | some a, some b => partsBelow a.parts b.parts
  | _, none => false

/-- The greatest of some levels; none if there is none. -/
def greatest (levels : List (Option SpecLevel)) : Option SpecLevel :=
  levels.foldl (fun top level => if isBelow top level then level else top) none

/-- Levels from the least to the greatest. -/
def sort (levels : List (Option SpecLevel)) : List (Option SpecLevel) :=
  levels.mergeSort fun a b => !isBelow b a

def toJson (level : SpecLevel) : Json := .text level.display

/-- A level is a whole number or the text of a level. -/
def ofJson? : Json → Option SpecLevel
  | .string (some s) => parse? s
  | j => j.word?.map fun n => ⟨n, []⟩

end SpecLevel

end SpecLink
