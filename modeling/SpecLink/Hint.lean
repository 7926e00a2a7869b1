import SpecLink.Candidate
import SpecLink.Grouping

/-!
# Hints about ambiguous links

A link that several definitions satisfy comes with a hint: lines for a block of link defaults and
clauses for the metadata, each of which would select one of them. Definitions that no line can tell
apart are listed with their URLs.
-/
namespace SpecLink

/-- What a reader needs to select a definition. -/
structure Hint where
  text : String
  kind : DefinitionKind
  spec : String
  /-- The term that the definition is for, `/` if it is for none. Left out if it is not needed. -/
  scope : Option String := none
  url : String
  deriving DecidableEq, Repr

namespace Hint

/-- The line of a block of link defaults that selects the definition. -/
def blockLine (h : Hint) : String :=
  let scope := match h.scope with
    | some value => s!" for:{value};"
    | none => ""
  s!"spec:{h.spec}; type:{h.kind.name};" ++ scope ++ s!" text:{h.text}"

/-- The clause of the metadata that selects the definition. -/
def metadataClause (h : Hint) : String := s!"{h.spec} ({h.kind.name}) {h.text}"

/-- The text, kind and spec that hints are grouped by. -/
def group (h : Hint) : String × DefinitionKind × String := (h.text, h.kind, h.spec)

/-- The terms that a candidate is for, with a slash for none. -/
def scopesOf (c : Candidate) : List String := if c.scope.isEmpty then ["/"] else c.scope.members

/-- The hints for a link, one for each term that its candidate is for. -/
def ofLink (r : ResolvedLink) : List Hint :=
  (scopesOf r.candidate).map fun scope => {
    text := r.candidate.text
    kind := r.candidate.kind
    spec := r.candidate.specLabel
    scope := some scope
    url := r.url }

/-- The hint of a group of one needs no scope. -/
def dropScope (hints : List Hint) : List Hint :=
  match hints with
  | [h] => [{ h with scope := none }]
  | _ => hints

/-- The hints for some links, grouped by text, kind and spec. -/
def simplify (links : List ResolvedLink) (alwaysScoped : Bool) : List Hint :=
  let groups := Grouping.groupsBy group (links.flatMap ofLink)
  (if alwaysScoped then groups else groups.map dropScope).flatten

/-- The lines of a message, each on a line of its own. -/
def indentedLines (lines : List String) : String := String.join (lines.map ("\n" ++ ·))

/-- What is said of the hints that have a line of their own. -/
def selectable (hints : List Hint) : String :=
  if hints.isEmpty then ""
  else
    "\nTo auto-select one of the following refs, " ++
      "insert one of these lines into a <pre class=link-defaults> block:" ++
      indentedLines (hints.map blockLine) ++
      "\nor add one of these clauses to the 'Link Defaults' metadata:" ++
      indentedLines (hints.map metadataClause)

/-- What is said of groups of hints that share a line. -/
def indistinct (groups : List (List Hint)) : String :=
  if groups.isEmpty then ""
  else
    "\nThe following refs show up multiple times in their spec, " ++
      "in a way that can't be told apart. " ++
      "Either create a manual link, or ask the spec maintainer to add disambiguating attributes " ++
      "(usually a for='' attribute to all of them)." ++
      indentedLines (groups.flatMap fun hints =>
        (hints.head?.map blockLine).toList ++ hints.map fun h => "  " ++ h.url)

/-- The warning about a link that several anchors satisfy. -/
def ambiguityMessage (text : String) (kind : LinkKind) (scope : SortedSet) (chosenUrl : String)
    (hints : List Hint) : String :=
  let groups := Grouping.groupsBy blockLine hints
  let forScope := if scope.isEmpty then "" else " for '" ++ scope.join ", " ++ "'"
  s!"Multiple possible '{text}' {kind.name} refs{forScope}.\nArbitrarily chose {chosenUrl}" ++
    selectable (groups.filter fun hints => hints.length == 1).flatten ++
    indistinct (groups.filter fun hints => hints.length > 1)

/-- The warning about a link that several definitions of the document satisfy. -/
def localAmbiguityMessage (text : String) (kind : LinkKind) (chosenUrl : String)
    (links : List ResolvedLink) : String :=
  s!"Multiple possible '{kind.name}' local refs for '{text}'.\n" ++
    s!"Chose {chosenUrl}; add a for='' value to the link to pick one of:" ++
    indentedLines ((simplify links true).map fun h => s!"{h.blockLine} ({h.url})")

end Hint

end SpecLink
