import SpecLink.Biblio.Entry

/-!
# What a document uses

The specs that links of a document go to and the bibliography entries that it cites, in the order of
first use. What is used normatively once is normative.
-/
namespace SpecLink

structure Usages where
  /-- Specs, and whether some use of them is normative. -/
  specs : List (String × Bool) := []
  /-- The names of entries cited normatively, in lowercase. -/
  normative : List String := []
  /-- The names of the other cited entries, in lowercase. -/
  informative : List String := []
  /-- The first entry cited under each name. -/
  entries : List (String × BiblioEntry) := []
  deriving DecidableEq, Repr, Inhabited

namespace Usages

def isEmpty (u : Usages) : Bool := u.specs.isEmpty && u.entries.isEmpty

/-- Notes a use of a spec in a list of them. -/
def noteSpec (id : String) (normative : Bool) : List (String × Bool) → List (String × Bool)
  | [] => [(id, normative)]
  | (other, flag) :: rest =>
    if other == id then (other, flag || normative) :: rest
    else (other, flag) :: noteSpec id normative rest

def recordSpec (u : Usages) (id : String) (normative : Bool) : Usages :=
  { u with specs := noteSpec id normative u.specs }

/-- Appends a name unless it is listed. -/
def listed (name : String) (names : List String) : List String :=
  if names.contains name then names else names ++ [name]

/-- Records a citation. A normative one takes the entry out of the informative list, an informative
one leaves the normative list alone. -/
def recordBiblio (u : Usages) (e : BiblioEntry) (normative : Bool) : Usages :=
  let name := Text.lowercase e.displayKey
  let entries := if (u.entries.lookup name).isSome then u.entries else u.entries ++ [(name, e)]
  if normative then
    { u with
      entries
      informative := u.informative.filter (· != name)
      normative := listed name u.normative }
  else if u.normative.contains name then { u with entries }
  else { u with entries, informative := listed name u.informative }

/-- The entries under some names. -/
def entriesUnder (u : Usages) (names : List String) : List BiblioEntry :=
  names.filterMap fun name => u.entries.lookup name

def normativeEntries (u : Usages) : List BiblioEntry := u.entriesUnder u.normative

def informativeEntries (u : Usages) : List BiblioEntry := u.entriesUnder u.informative

end Usages

end SpecLink
