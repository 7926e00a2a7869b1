import SpecLink.Defaults.InfoTree
import SpecLink.Defaults.Rule

/-!
# Blocks of link defaults and of ignored specs

Both are info trees. A link default has one `spec`, `type` and `text`, may have a `status`, and
gives a rule for each value of `for`. An ignored spec has one or more `spec` and may name the spec
that replaces it.
-/
namespace SpecLink.Defaults

open InfoTree (blockSource)

/-- The only value of a key. -/
def only (record : InfoRecord) (key : String) (line : Option Nat) : Except Failure String :=
  match record.valuesOf key with
  | [value] => .ok value
  | _ => .error (.parse (.notExactlyOne key record) blockSource line)

/-- Reads the first of some values as a status. -/
def firstStatus : List String → Except Failure (Option Status)
  | [] => .ok none
  | value :: _ => (Status.read value).map some

/-- The scopes that the values of `for` give: one each, or none at all. -/
def scopesOf (values : List String) : List (Option String) :=
  if values.isEmpty then [none] else values.map some

/-- The rules of a record. -/
def rulesOfRecord (line : Option Nat) (record : InfoRecord) :
    Except Failure (List DefaultRule) := do
  let kind ← DefinitionKind.read (← only record "type" line)
  let spec ← only record "spec" line
  let term ← only record "text" line
  let status ← firstStatus (record.valuesOf "status")
  return (scopesOf (record.valuesOf "for")).map fun scope => {
    term, kind, status, scope
    specId := Text.lowercase spec }

/-- The rules of a block. -/
def parseBlock (lines : List String) (firstLine : Option Nat) :
    Except Failure (List DefaultRule) := do
  return (← (← InfoTree.parse lines firstLine).mapM (rulesOfRecord firstLine)).flatten

/-- Specs that links do not go to. -/
structure IgnoredSpecs where
  ignored : List String := []
  /-- Pairs of a spec and the spec that replaces it. -/
  replaced : List (String × String) := []
  deriving DecidableEq, Repr

def IgnoredSpecs.append (a b : IgnoredSpecs) : IgnoredSpecs :=
  ⟨a.ignored ++ b.ignored, a.replaced ++ b.replaced⟩

/-- The specs of a record. -/
def ignoredOfRecord (line : Option Nat) (record : InfoRecord) : Except Failure IgnoredSpecs :=
  let specs := (record.valuesOf "spec").map Text.lowercase
  if specs.isEmpty then .error (.parse (.noIgnoredSpec record) blockSource line)
  else
    match record.valuesOf "replacedBy" with
    | [] => .ok { ignored := specs }
    | [replacement] => .ok { replaced := specs.map fun spec => (spec, Text.lowercase replacement) }
    | _ => .error (.parse (.severalReplacements record) blockSource line)

/-- The specs of a block. -/
def parseIgnoredSpecs (lines : List String) (firstLine : Option Nat) :
    Except Failure IgnoredSpecs := do
  let parts ← (← InfoTree.parse lines firstLine).mapM (ignoredOfRecord firstLine)
  return parts.foldl IgnoredSpecs.append {}

end SpecLink.Defaults
