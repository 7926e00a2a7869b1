import SpecLink.Failure
import SpecLink.Json.Record
import SpecLink.LinkText

/-!
# Link defaults

A rule says where links to an ambiguous term go: to a spec and a kind, at a status, for a scope.
A table holds the rules of a document in the order in which they are tried.
-/
namespace SpecLink

structure DefaultRule where
  term : String
  specId : String
  kind : DefinitionKind
  status : Option Status := none
  /-- The term that the target is for. -/
  scope : Option String := none
  deriving DecidableEq, Repr

namespace DefaultRule

def toJson (r : DefaultRule) : Json := .record [
  ("term", .text r.term),
  ("spec_id", .text r.specId),
  ("kind", .text r.kind.name),
  ("status", .option (fun s => .text s.name) r.status),
  ("for_scope", .option .text r.scope)]

def ofJson? (j : Json) : Option DefaultRule := do
  match ← j.slots? ["term", "spec_id", "kind", "status", "for_scope"] with
  | [term, specId, kind, status, scope] =>
    return {
      term := ← term.required Json.text?
      specId := ← specId.required Json.text?
      kind := ← kind.required (Json.name? DefinitionKind.ofName?)
      status := ← status.optional (Json.name? Status.ofName?)
      scope := ← scope.optional Json.text? }
  | _ => none

/-- The rule suits a link of a kind and scope. A link without a scope takes any rule's scope. -/
def suits (r : DefaultRule) (kind : LinkKind) (scope : SortedSet) : Bool :=
  kind.accepts r.kind &&
    match r.scope with
    | some value => scope.isEmpty || value ∈ scope
    | none => true

end DefaultRule

/-- The rules of a document, each under its term in normal form. -/
structure DefaultTable where
  rules : List (String × DefaultRule) := []
  deriving DecidableEq, Repr

namespace DefaultTable

def size (table : DefaultTable) : Nat := table.rules.length

def isEmpty (table : DefaultTable) : Bool := table.rules.isEmpty

def add (table : DefaultTable) (rule : DefaultRule) : DefaultTable :=
  ⟨table.rules ++ [(LinkText.normalize rule.term, rule)]⟩

def addAll (table : DefaultTable) (rules : List DefaultRule) : DefaultTable :=
  rules.foldl add table

/-- The rules for a text in normal form. -/
def rulesFor (table : DefaultTable) (text : String) : List DefaultRule :=
  (table.rules.filter fun r => r.1 == text).map Prod.snd

/-- The texts under which rules for a link are sought. -/
def textsOf (kind : LinkKind) (text : String) : List String :=
  if kind.usesVariants then LinkText.variants text else [LinkText.normalize text]

/-- The rules that are tried for a link: those of the first spelling that has any. -/
def consulted (table : DefaultTable) (kind : LinkKind) (text : String) : List DefaultRule :=
  match (textsOf kind text).find? fun t => !(table.rulesFor t).isEmpty with
  | some t => table.rulesFor t
  | none => []

/-- The rule for a link. -/
def lookup (table : DefaultTable) (text : String) (kind : LinkKind) (scope : SortedSet) :
    Option DefaultRule :=
  (table.consulted kind text).find? fun r => r.suits kind scope

end DefaultTable

end SpecLink
