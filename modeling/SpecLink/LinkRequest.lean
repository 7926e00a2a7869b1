import SpecLink.Defaults.Rule

/-!
# Requests for links

A request is what an author wrote; a query is what is searched for. The rules of the document's link
defaults supply what the request leaves open.
-/
namespace SpecLink

structure LinkRequest where
  kind : LinkKind
  text : String
  spec : Option String := none
  status : Option Status := none
  /-- The terms that the target is for. -/
  scope : SortedSet := ∅
  /-- A failure is reported. -/
  allowError : Bool := true
  line : Option UInt32 := none
  normative : Bool := true
  deriving DecidableEq

structure LinkQuery where
  kind : LinkKind
  /-- The text in normal form. -/
  text : String
  spec : Option String
  status : Status
  scope : SortedSet
  deriving DecidableEq

namespace LinkRequest

/-- The scope without blanks around its members. An empty member and a slash say nothing. -/
def cleanScope (r : LinkRequest) : SortedSet :=
  .ofList ((r.scope.members.map Text.trim).filter fun value => !value.isEmpty && value != "/")

/-- The request as it stands. -/
def query (r : LinkRequest) (defaultStatus : Status) : LinkQuery where
  kind := r.kind
  text := LinkText.normalize r.text
  spec := r.spec.map fun spec => Text.lowercase (Text.trim spec)
  status := r.status.getD defaultStatus
  scope := r.cleanScope

end LinkRequest

namespace LinkQuery

/-- The scope of a rule, if the query has none of its own. -/
def scopeWith (q : LinkQuery) (rule : DefaultRule) : SortedSet :=
  match rule.scope with
  | some value => if q.scope.isEmpty then q.scope.insert value else q.scope
  | none => q.scope

/-- What a rule makes of a query. The kind of the rule always counts, its spec and status only where
the request has none. -/
def refine (q : LinkQuery) (status : Option Status) (defaultStatus : Status) (rule : DefaultRule) :
    LinkQuery where
  kind := .exact rule.kind
  text := q.text
  spec := some (q.spec.getD (Text.lowercase rule.specId))
  status := (status <|> rule.status).getD defaultStatus
  scope := q.scopeWith rule

/-- The query of a request. Rules are consulted if the request lacks a spec or a status. -/
def ofRequest (defaults : DefaultTable) (defaultStatus : Status) (r : LinkRequest) : LinkQuery :=
  let q := r.query defaultStatus
  if q.spec.isSome && r.status.isSome then q
  else
    match defaults.lookup q.text q.kind q.scope with
    | some rule => q.refine r.status defaultStatus rule
    | none => q

/-- The texts under which candidates are sought, the literal one first. -/
def texts (q : LinkQuery) : List String :=
  if q.kind.usesVariants then LinkText.variants q.text else [q.text]

/-- Properties that authors make up start with two hyphens and are defined nowhere. -/
def isCustomProperty (q : LinkQuery) : Bool :=
  (q.kind == .propdesc || q.kind == .exact .property || q.kind == .exact .descriptor) &&
    Text.startsWith "--" q.text

/-- What is reported if a step of the search leaves no candidate. -/
def failureMessage (q : LinkQuery) (stage : SearchStage) : String :=
  let nothing := s!"No '{q.kind.name}' refs found for '{q.text}'"
  let inSpec := match q.spec with
    | some spec => s!" in spec '{spec}'"
    | none => ""
  match stage with
  | .text => nothing ++ "."
  | .exported => nothing ++ " that are marked for export."
  | .spec => nothing ++ " with spec '" ++ q.spec.getD "" ++ "'."
  | .scope => nothing ++ " with for='" ++ q.scope.join ", " ++ "'" ++ inSpec ++ "."
  | .status => nothing ++ s!" compatible with status '{q.status.name}'{inSpec}."
  | .ignoredSpecs => s!"The only '{q.kind.name}' refs for '{q.text}' were in ignored specs."

end LinkQuery

end SpecLink
