import SpecLink.Action
import SpecLink.Definition

/-!
# The index of a document's definitions

Definitions are inserted until the index is sealed and found from then on. Two definitions may not
claim one text for one kind and scope; a definition may repeat a claim of its own.
-/
namespace SpecLink

structure DefinitionIndex where
  /-- The candidates, in the order of insertion. -/
  candidates : List Candidate := []
  isSealed : Bool := false
  /-- The number of candidates that successful insertions added. -/
  size : Nat := 0
  deriving DecidableEq

namespace DefinitionIndex

/-- Ends the collection. -/
def finish (index : DefinitionIndex) : DefinitionIndex := { index with isSealed := true }

def phaseName (index : DefinitionIndex) : String :=
  if index.isSealed then "sealed" else "collecting"

def isEmpty (index : DefinitionIndex) : Bool := index.size == 0

/-- The candidates that claim what a candidate claims: its text for its kind and scope. -/
def rivals (index : DefinitionIndex) (c : Candidate) : List Candidate :=
  index.candidates.filter fun other =>
    other.text == c.text && other.kind == c.kind && other.scope == c.scope

/-- The candidate comes from the element with the given id. -/
def hasId (id : String) (c : Candidate) : Bool :=
  match c.origin with
  | .document otherId _ => otherId == id
  | .external .. => false

/-- Adds one candidate of a definition and answers whether it is new. -/
def insertCandidate (d : Definition) (c : Candidate) : Action DefinitionIndex Bool := do
  let index ← get
  match index.rivals c with
  | [] =>
    set { index with candidates := index.candidates ++ [c] }
    return true
  | rivals =>
    match rivals.find? fun other => !hasId d.id other with
    | some other =>
      throw (.duplicateDefinition c.kind c.text c.scope other.site d.site)
    -- The definition repeats a claim of its own.
    | none => return false

/-- Adds candidates one by one and answers with the number of new ones. -/
def insertCandidates (d : Definition) : List Candidate → Action DefinitionIndex Nat
  | [] => return 0
  | c :: rest => do
    let isNew ← insertCandidate d c
    let more ← insertCandidates d rest
    return (if isNew then 1 else 0) + more

/-- Inserts a definition under each of its texts and answers with the number of new candidates. -/
def insert (d : Definition) : Action DefinitionIndex Nat := do
  if (← get).isSealed then throw (.phase (.indexSealed d.id))
  match d.conflict? with
  | some text => throw (.conflictingText text ("#" ++ d.id))
  | none =>
    -- After a failure the candidates before it stay, but do not count.
    let added ← insertCandidates d d.candidates
    modify fun index => { index with size := index.size + added }
    return added

/-- The candidates under a text that satisfy a kind of link, in the order of insertion. -/
def find (index : DefinitionIndex) (kind : LinkKind) (text : String) :
    Except Failure (List Candidate) :=
  if index.isSealed then
    .ok <| index.candidates.filter fun c =>
      c.text == LinkText.normalize text && kind.accepts c.kind
  else .error (.phase (.indexOpen text))

/-- Some definition has the text, whatever its kind. -/
def containsText (index : DefinitionIndex) (text : String) : Bool :=
  index.candidates.any fun c => c.text == LinkText.normalize text

end DefinitionIndex

end SpecLink
