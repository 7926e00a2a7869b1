import SpecLink.Defaults.Rule
import SpecLink.Text.TopLevel
import SpecLink.Text.Word

/-!
# Link defaults as metadata

A value of the metadata `Link Defaults` is a list of clauses `spec (kind, status) term/term`, with
commas between them. The status and the comma before it may be left out.
-/
namespace SpecLink.Defaults

/-- The source of clauses as it is named in messages. -/
def metadataSource : String := "Link Defaults"

/-- The parts of a clause. -/
structure Clause where
  spec : String
  kind : String
  status : Option Status
  terms : String
  deriving DecidableEq, Repr

/-- A character of the names of specs and kinds. -/
def isNameChar (c : Char) : Bool := Text.isWord c || c == '-'

/-- A name at the front, and what follows it. -/
def takeName? (cs : List Char) : Option (String × List Char) :=
  match cs.takeWhile isNameChar with
  | [] => none
  | name => some (String.ofList name, cs.dropWhile isNameChar)

/-- One or more blanks at the front, and what follows them. -/
def takeBlanks? : List Char → Option (List Char)
  | [] => none
  | c :: rest => if Text.isBlank c then some (Text.dropBlanks rest) else none

/-- A status word at the front, and what follows it. -/
def takeStatus? (cs : List Char) : Option (Status × List Char) :=
  (([Status.snapshot, .current]).findSome? fun status =>
    (status.name.toList.isPrefixOf? cs).map fun rest => (status, rest))

/-- The status that follows a kind, and what follows the status. -/
def splitStatus (cs : List Char) : Option Status × List Char :=
  let afterComma := match Text.dropBlanks cs with
    | ',' :: rest => Text.dropBlanks rest
    | rest => rest
  match takeStatus? afterComma with
  | some (status, rest) => (some status, rest)
  -- A comma without a status word is left where it is.
  | none => (none, cs)

/-- Reads a clause without blanks at its ends. The terms stand on one line. -/
def Clause.parse? (written : String) : Option Clause := do
  let (spec, afterSpec) ← takeName? written.toList
  match ← takeBlanks? afterSpec with
  | '(' :: inside =>
    let (kind, afterKind) ← takeName? (Text.dropBlanks inside)
    let (status, afterStatus) := splitStatus afterKind
    match Text.dropBlanks afterStatus with
    | ')' :: outside =>
      let terms ← takeBlanks? outside
      if terms.contains '\n' then none else some ⟨spec, kind, status, String.ofList terms⟩
    | _ => none
  | _ => none

/-- The rules of a clause, one for each term that is not blank. -/
def Clause.rules (clause : Clause) : Except Failure (List DefaultRule) := do
  let kind ← DefinitionKind.read clause.kind
  let terms := ((Text.splitAt '/' clause.terms).map Text.trim).filter fun term => !term.isEmpty
  return terms.map fun term => {
    term, kind
    specId := Text.lowercase clause.spec
    status := clause.status }

/-- The rules of one piece of a value. A blank piece has none. -/
def rulesOfPiece (piece : String) : Except Failure (List DefaultRule) :=
  let written := Text.trim piece
  if written.isEmpty then .ok []
  else
    match Clause.parse? written with
    | some clause => clause.rules
    | none => .error (.parse (.defaultsClause written) metadataSource none)

/-- The rules of a value. -/
def parseMetadata (value : String) : Except Failure (List DefaultRule) := do
  return (← (Text.splitTopLevel ',' value).mapM rulesOfPiece).flatten

end SpecLink.Defaults
