import SpecLink.Failure
import SpecLink.Text.Basic

/-!
# Info trees

A block of lines `key: value; key: value`. A line inherits the pieces of the line above it that is
indented one level less, so shared pieces are written once; each line without lines below it is a
record. A level is four columns, a tab counts as one level. Lines that start with `#` are comments.
-/
namespace SpecLink

namespace InfoRecord

/-- Adds values under a key, after those that are there. -/
def add (record : InfoRecord) (key : String) (values : List String) : InfoRecord :=
  record.insert key ((record.get? key).getD [] ++ values)

/-- The values of a key. -/
def valuesOf (record : InfoRecord) (key : String) : List String := (record.get? key).getD []

/-- Adds everything that another record holds. -/
def merge (record other : InfoRecord) : InfoRecord :=
  other.entries.foldl (fun r e => r.add e.1 e.2) record

end InfoRecord

namespace InfoTree

/-- The columns of a level. -/
def levelWidth : Nat := 4

/-- The source of blocks as it is named in messages. -/
def blockSource : String := "info block"

/-- The column at which a text starts. -/
def indentation (line : String) : Nat :=
  (line.toList.takeWhile Text.isBlank).foldl (fun n c => n + if c == '\t' then levelWidth else 1) 0

/-- A line that says something: it is neither blank nor a comment. -/
def isSignificant (line : String) : Bool :=
  match Text.dropBlanks line.toList with
  | [] => false
  | c :: _ => c != '#'

/-- Reads a piece: a key, a colon, and a value that stands on one line. -/
def readPiece? (piece : String) : Option (String × String) := do
  let (key, value) ← Text.cutAt? ':' (Text.trim piece)
  let value := Text.trimStart value
  if key.isEmpty || value.toList.contains '\n' then none
  else some (Text.trim key, Text.trim value)

/-- The pieces of a line, without blank ones. -/
def piecesOf (line : String) : List String :=
  (Text.splitAt ';' line).filter fun piece => !Text.isBlankText piece

/-- Reads the pieces of a line. -/
def readPieces? (line : String) : Option InfoRecord := do
  let pieces ← (piecesOf line).mapM readPiece?
  return pieces.foldl (fun r piece => r.add piece.1 [piece.2]) SortedMap.empty

/-- What all lines of a path give together, from the outermost inwards. -/
def flatten (path : List InfoRecord) : InfoRecord := path.foldl InfoRecord.merge SortedMap.empty

/-- The finished records, and the pieces of the last line and of the lines above it that it
inherits from, the outermost first. -/
structure Reading where
  records : List InfoRecord := []
  path : List InfoRecord := []

/-- The last line has no lines below it. -/
def Reading.closeLeaf (r : Reading) : List InfoRecord :=
  if r.path.isEmpty then r.records else r.records ++ [flatten r.path]

/-- Reads the next line that says something; it stands at most one level below the last one. -/
def Reading.readLine (r : Reading) (line : String) : Except ParseFault Reading :=
  let width := indentation line
  let depth := width / levelWidth
  if width % levelWidth != 0 then .error (.indentation (Text.trimEnd line))
  else if depth > r.path.length then
    .error (.indentJump (depth - r.path.length + 1) (Text.trim line))
  else
    match readPieces? (Text.trimStart line) with
    | none => .error (.infoGrammar (Text.trim line))
    | some record => .ok {
        records := if depth < r.path.length then r.closeLeaf else r.records
        path := r.path.take depth ++ [record] }

/-- Reads the line at an index; the block starts at the given line of the document. -/
def Reading.step (firstLine : Option Nat) (r : Reading) (line : String × Nat) :
    Except Failure Reading :=
  if isSignificant line.1 then
    match r.readLine line.1 with
    | .ok next => .ok next
    | .error fault => .error (.parse fault blockSource (firstLine.map (· + line.2)))
  else .ok r

/-- The records of a block. -/
def parse (lines : List String) (firstLine : Option Nat) : Except Failure (List InfoRecord) := do
  return (← lines.zipIdx.foldlM (Reading.step firstLine) {}).closeLeaf

end InfoTree

end SpecLink
