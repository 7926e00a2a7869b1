import SpecLink.Text.Basic

/-!
# Publication status

Links go to the current draft of a spec or to its dated snapshot.
-/
namespace SpecLink

inductive Status where
  | current
  | snapshot
  deriving DecidableEq, Repr, Inhabited

namespace Status

def name : Status → String
  | .current => "current"
  | .snapshot => "snapshot"

def ofName? (s : String) : Option Status :=
  if s == "current" then some .current
  else if s == "snapshot" then some .snapshot
  else none

/-- Reads a status in the words of authors: in any case, with the older names `ED`, `TR` and
`dated`. -/
def read? (s : String) : Option Status :=
  let word := Text.asciiLowercase (Text.trim s)
  if word == "current" || word == "ed" then some .current
  else if word == "snapshot" || word == "tr" || word == "dated" then some .snapshot
  else none

/-- The status that links of a document with the given own status go to: drafts and living
standards link to drafts, dated documents to snapshots. -/
def forDocument (documentStatus : String) : Status :=
  if ["ED", "DREAM", "UD", "LS", ""].contains (Text.asciiUppercase (Text.trim documentStatus)) then
    .current
  else .snapshot

end Status

end SpecLink
