import SpecLink.Hint
import SpecLink.LinkRequest
import SpecLink.Spec

/-!
# Selection of a target

From the candidates under a text to the one that a link goes to: filters by scope, by spec or
export, by ignored specs and by status, then a choice among what is left. Definitions of the
document come first; of anchors that share a short name the greatest level counts.
-/
namespace SpecLink

/-- What a document says about specs. -/
structure LinkPolicy where
  ignoredSpecs : List String := []
  /-- Pairs of a spec and the spec that replaces it. -/
  replacedSpecs : List (String × String) := []
  /-- The document's own short name in lowercase, without and with its level. -/
  shortname : String := ""
  versionedName : String := ""
  specs : SpecTable := ∅
  deriving DecidableEq

namespace LinkQuery

/-- The candidate is for what the query is for. A query without a scope wants a candidate without
one. -/
def fitsScope (q : LinkQuery) (c : Candidate) : Bool :=
  if q.scope.isEmpty then c.scope.isEmpty else q.scope.isSubset c.scope

/-- The candidate is in the document, or in the spec that the query names; if it names none, the
candidate must be exported. -/
def fitsSpec (q : LinkQuery) (c : Candidate) : Bool :=
  c.isLocal ||
    match q.spec with
    | some spec => c.specId? == some spec || c.shortname? == some spec
    | none => c.exported

/-- The step at which a query finds no candidate for want of a spec. -/
def specStage (q : LinkQuery) : SearchStage :=
  match q.spec with
  | some _ => .spec
  | none => .exported

end LinkQuery

namespace LinkPolicy

/-- The specs that give way to their replacement, because it is among the candidates or is the
document itself. -/
def droppedSpecs (p : LinkPolicy) (cs : List Candidate) : List String :=
  let present := p.versionedName :: cs.filterMap Candidate.specId?
  (p.replacedSpecs.filter fun pair => present.contains pair.2).map Prod.fst

/-- Links may go to the candidate, given the specs that give way. -/
def allows (p : LinkPolicy) (dropped : List String) (c : Candidate) : Bool :=
  match c.origin with
  | .document .. => true
  | .external specId shortname .. =>
    !p.ignoredSpecs.contains specId && !dropped.contains specId &&
      (p.shortname.isEmpty || shortname != p.shortname)

/-- The candidates that links may go to. A query that names its spec wants it even if replaced. -/
def allowed (p : LinkPolicy) (q : LinkQuery) (cs : List Candidate) : List Candidate :=
  cs.filter (p.allows (if q.spec.isNone then p.droppedSpecs cs else []))

/-- The spec publishes a draft. -/
def publishesDraft (p : LinkPolicy) (specId : String) : Bool :=
  match p.specs.get? specId with
  | some spec => spec.currentUrl.isSome
  | none => false

/-- The URL of a candidate at a status. A snapshot stands in for a draft only of specs that publish
no draft; a draft always stands in for a snapshot. -/
def urlFor (p : LinkPolicy) (status : Status) (c : Candidate) : Option String :=
  match c.origin, status with
  | .document id _, _ => some ("#" ++ id)
  | .external specId _ _ urls, .current =>
    urls.current <|> if p.publishesDraft specId then none else urls.snapshot
  | .external _ _ _ urls, .snapshot => urls.snapshot <|> urls.current

/-- The candidate with its URL. -/
def link? (p : LinkPolicy) (status : Status) (c : Candidate) : Option ResolvedLink :=
  (p.urlFor status c).map fun url => ⟨url, c⟩

end LinkPolicy

/-- A chosen target, and the warning if there were others. -/
structure Choice where
  link : ResolvedLink
  warning : Option String := none
  deriving DecidableEq

namespace Selection

/-- Goes on with a list unless it is empty. -/
def ensure {α : Type} (stage : SearchStage) (items : List α) : Except SearchStage (List α) :=
  if items.isEmpty then .error stage else .ok items

/-- The links that pass every filter, or the first filter that none passes. -/
def survivors (p : LinkPolicy) (q : LinkQuery) (cs : List Candidate) :
    Except SearchStage (List ResolvedLink) := do
  -- The order of the filters decides which of them a failure names.
  let found ← ensure .text cs
  let fitting ← ensure .scope (found.filter q.fitsScope)
  let placed ← ensure q.specStage (fitting.filter q.fitsSpec)
  let allowed ← ensure .ignoredSpecs (p.allowed q placed)
  ensure .status (allowed.filterMap (p.link? q.status))

def shortnameOf (r : ResolvedLink) : Option String := r.candidate.shortname?

def levelOf (r : ResolvedLink) : Option SpecLevel := r.candidate.level?

/-- All links go to specs of one short name. -/
def shareShortname : List ResolvedLink → Bool
  | [] => true
  | first :: rest => rest.all fun r => shortnameOf r == shortnameOf first

/-- The links to the greatest level, if all go to specs of one short name. -/
def finalists (links : List ResolvedLink) : List ResolvedLink :=
  if shareShortname links then
    links.filter fun r => levelOf r == SpecLevel.greatest (links.map levelOf)
  else links

/-- The first link; a query for a property or descriptor takes the first property before it. -/
def favourite (q : LinkQuery) (links : List ResolvedLink) : Option ResolvedLink :=
  if q.kind == .propdesc then
    (links.find? fun r => r.candidate.kind == .property) <|> links.head?
  else links.head?

/-- The choice among definitions of the document. -/
def chooseLocal (q : LinkQuery) (first : ResolvedLink) (others : List ResolvedLink) : Choice where
  link := first
  warning :=
    if others.isEmpty then none
    else some (Hint.localAmbiguityMessage q.text q.kind first.url (first :: others))

/-- The choice among anchors. -/
def chooseExternal (q : LinkQuery) (links : List ResolvedLink) : Option Choice :=
  let finalists := finalists links
  (favourite q finalists).map fun link => {
    link
    warning :=
      if finalists.length ≤ 1 then none
      else some <|
        Hint.ambiguityMessage q.text q.kind q.scope link.url (Hint.simplify finalists false) }

/-- The choice among links; none if there is no link. -/
def choose (q : LinkQuery) (links : List ResolvedLink) : Option Choice :=
  -- A definition of the document wins over anchors of any level.
  match links.filter fun r => r.candidate.isLocal with
  | first :: others => some (chooseLocal q first others)
  | [] => chooseExternal q links

/-- The target of a query among candidates, or the step at which the search ended. -/
def select (p : LinkPolicy) (q : LinkQuery) (cs : List Candidate) : Except SearchStage Choice := do
  match choose q (← survivors p q cs) with
  | some choice => return choice
  -- Never met: the last filter leaves at least one link.
  | none => throw .status

end Selection

end SpecLink
