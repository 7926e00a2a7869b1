import SpecLink.Failure
import SpecLink.Level

/-!
# Candidates

A candidate is a definition that a link may lead to: one of the document itself, or an anchor of
another spec with the URLs under which it is published. A resolved link is a candidate with its URL.
-/
namespace SpecLink

/-- The URLs of an anchor by status. -/
structure AnchorUrls where
  current : Option String := none
  snapshot : Option String := none
  deriving DecidableEq, Repr, Inhabited

namespace AnchorUrls

def toJson (urls : AnchorUrls) : Json := .record [
  ("current", .option .text urls.current),
  ("snapshot", .option .text urls.snapshot)]

def ofJson? (j : Json) : Option AnchorUrls := do
  match ← j.slots? ["current", "snapshot"] with
  | [current, snapshot] =>
    return ⟨← current.optional Json.text?, ← snapshot.optional Json.text?⟩
  | _ => none

end AnchorUrls

/-- Where a candidate is defined. -/
inductive Origin where
  | document (id : String) (line : Option UInt32)
  | external (specId shortname : String) (level : Option SpecLevel) (urls : AnchorUrls)
  deriving DecidableEq, Repr, Inhabited

namespace Origin

/-- The member `origin` says which of the two forms an origin has. -/
def toJson : Origin → Json
  | .document id line => .record [
    ("origin", .text "local"),
    ("id", .text id),
    ("line", .option (fun n => .nat n.toNat) line)]
  | .external specId shortname level urls => .record [
    ("origin", .text "external"),
    ("spec_id", .text specId),
    ("shortname", .text shortname),
    ("level", .option SpecLevel.toJson level),
    ("urls", urls.toJson)]

/-- The text that names the form: a member of an object, the first item of an array. -/
def formOf? : Json → Option String
  | .object members => do (← members.lookup (some "origin")).text?
  | .array (form :: _) => form.text?
  | _ => none

/-- Reads an origin inside `depth` open containers. The form may stand behind other members, so the
whole value must be readable. -/
def ofJson? (depth : Nat) (j : Json) : Option Origin := do
  if !j.isReadable (127 - depth) then none
  else
    let form ← formOf? j
    if form == "local" then
      match ← j.slots? ["origin", "id", "line"] with
      | [_, id, line] => return .document (← id.required Json.text?) (← line.optional Json.word?)
      | _ => none
    else if form == "external" then
      match ← j.slots? ["origin", "spec_id", "shortname", "level", "urls"] with
      | [_, specId, shortname, level, urls] =>
        return .external (← specId.required Json.text?) (← shortname.required Json.text?)
          (← level.optional SpecLevel.ofJson?) (← urls.required AnchorUrls.ofJson?)
      | _ => none
    else none

end Origin

/-- A definition that a link may lead to. -/
structure Candidate where
  /-- The linking text in normal form. -/
  text : String
  kind : DefinitionKind
  origin : Origin
  /-- The terms that the definition is for; none means that it stands for itself. -/
  scope : SortedSet
  /-- Links that name no spec may lead here from other documents. -/
  exported : Bool
  normative : Bool
  deriving DecidableEq

namespace Candidate

def isLocal (c : Candidate) : Bool :=
  match c.origin with
  | .document .. => true
  | .external .. => false

def specId? (c : Candidate) : Option String :=
  match c.origin with
  | .document .. => none
  | .external specId .. => some specId

def shortname? (c : Candidate) : Option String :=
  match c.origin with
  | .document .. => none
  | .external _ shortname .. => some shortname

def level? (c : Candidate) : Option SpecLevel :=
  match c.origin with
  | .document .. => none
  | .external _ _ level _ => level

/-- Where a reader finds the definition. -/
def site (c : Candidate) : String :=
  match c.origin with
  | .document id line => documentSite id line
  | .external specId _ _ urls =>
    match urls.current <|> urls.snapshot with
    | some url => s!"{specId} {url}"
    | none => specId

/-- The word for the candidate's spec in hints. -/
def specLabel (c : Candidate) : String := c.specId?.getD "local"

def toJson (c : Candidate) : Json := .record [
  ("text", .text c.text),
  ("kind", .text c.kind.name),
  ("origin", c.origin.toJson),
  ("for_scope", .list .text c.scope.members),
  ("exported", .bool c.exported),
  ("normative", .bool c.normative)]

def ofJson? (depth : Nat) (j : Json) : Option Candidate := do
  match ← j.slots? ["text", "kind", "origin", "for_scope", "exported", "normative"] with
  | [text, kind, origin, scope, exported, normative] =>
    return {
      text := ← text.required Json.text?
      kind := ← kind.required (Json.name? DefinitionKind.ofName?)
      origin := ← origin.required (Origin.ofJson? (depth + 1))
      scope := ← scope.required Json.textSet?
      exported := ← exported.required Json.bool?
      normative := ← normative.required Json.bool? }
  | _ => none

end Candidate

/-- A link that found its target. -/
structure ResolvedLink where
  url : String
  candidate : Candidate
  deriving DecidableEq

namespace ResolvedLink

def toJson (r : ResolvedLink) : Json := .record [
  ("url", .text r.url),
  ("candidate", r.candidate.toJson)]

def ofJson? (j : Json) : Option ResolvedLink := do
  match ← j.slots? ["url", "candidate"] with
  | [url, candidate] =>
    return ⟨← url.required Json.text?, ← candidate.required (Candidate.ofJson? 1)⟩
  | _ => none

end ResolvedLink

end SpecLink
