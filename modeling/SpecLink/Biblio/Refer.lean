import SpecLink.Biblio.Entry
import SpecLink.Failure
import SpecLink.Text.Word

/-!
# The refer format

A record is a block of lines `%X value`, ended by a blank line or the end of the text. Lines that
start with `#` or `%#` are comments, also inside a record. Records without a key or a title are left
out.
-/
namespace SpecLink.Refer

/-- What a line of the text is. -/
inductive Line where
  | blank
  | comment
  | field (code : Char) (value : String)
  | malformed
  deriving DecidableEq, Repr

/-- A field is a percent sign, a word character, blanks, and a value without blanks at its ends. -/
def fieldOf (cs : List Char) : Line :=
  match cs with
  | '%' :: code :: gap :: value =>
    if Text.isWord code && Text.isBlank gap then
      .field code (String.ofList (Text.trimChars value))
    else .malformed
  | _ => .malformed

def classify (line : String) : Line :=
  match Text.dropBlanks line.toList with
  | [] => .blank
  | '#' :: _ => .comment
  | '%' :: '#' :: _ => .comment
  | cs => fieldOf cs

/-- Sets the field with the given code; authors accumulate. -/
def setField (e : BiblioEntry) (code : Char) (value : String) : Option BiblioEntry :=
  match code with
  | 'A' => some { e with authors := e.authors ++ [value] }
  | 'Q' => some { e with foreignAuthors := e.foreignAuthors ++ [value] }
  | 'B' => some { e with bookName := some value }
  | 'C' => some { e with city := some value }
  | 'D' => some { e with date := some value }
  | 'I' => some { e with publisher := some value }
  | 'J' => some { e with journal := some value }
  | 'L' => some { e with key := Text.lowercase value }
  | 'N' => some { e with numberInVolume := some value }
  | 'O' => some { e with other := some value }
  | 'P' => some { e with pageNumber := some value }
  | 'R' => some { e with reportNumber := some value }
  | 'S' => some { e with status := some value }
  | 'T' => some { e with title := value }
  | 'U' => some { e with url := some value }
  | 'V' => some { e with volumeNumber := some value }
  | 'X' => some { e with abstractText := some value }
  | _ => none

/-- A record before its first field. -/
def emptyRecord : BiblioEntry := { key := "", title := "", order := BiblioOrder.refer }

/-- The finished entries, the last first, and the record that is open. -/
structure Reading where
  entries : List BiblioEntry := []
  record : Option BiblioEntry := none

/-- Ends the open record. -/
def Reading.close (r : Reading) : Reading :=
  match r.record with
  | some e => ⟨if e.isValid then e :: r.entries else r.entries, none⟩
  | none => r

/-- Reads the line with the given number. -/
def Reading.readLine (source : String) (r : Reading) (line : String × Nat) :
    Except Failure Reading :=
  match classify line.1 with
  | .blank => .ok r.close
  | .comment => .ok r
  | .malformed => .error (.parse (.referLine (Text.trim line.1)) source (some line.2))
  | .field code value =>
    match setField (r.record.getD emptyRecord) code value with
    | some e => .ok { r with record := some e }
    | none => .error (.parse (.referField code) source (some line.2))

/-- The entries of a text, in order. -/
def parse (text source : String) : Except Failure (List BiblioEntry) := do
  let r ← ((Text.lines text).zipIdx 1).foldlM (Reading.readLine source) {}
  return r.close.entries.reverse

end SpecLink.Refer
