import SpecLink.Json.Record
import SpecLink.Status
import SpecLink.Text.Lowercase

/-!
# Bibliography entries

An entry describes a publication. It is listed under its key or under the name it prefers, and is
cited in one line of markup.
-/
namespace SpecLink

structure BiblioEntry where
  key : String
  title : String
  url : Option String := none
  snapshotUrl : Option String := none
  authors : List String := []
  foreignAuthors : List String := []
  etAl : Bool := false
  date : Option String := none
  status : Option String := none
  publisher : Option String := none
  other : Option String := none
  bookName : Option String := none
  city : Option String := none
  journal : Option String := none
  volumeNumber : Option String := none
  numberInVolume : Option String := none
  pageNumber : Option String := none
  reportNumber : Option String := none
  abstractText : Option String := none
  /-- The name to list the entry under, if it is not the key. -/
  preferredAlias : Option String := none
  /-- The key of the entry that makes this one obsolete. -/
  supersededBy : Option String := none
  /-- Of several entries with one key the one of least order counts. -/
  order : UInt32 := 0
  /-- The entry stands in for one that was not found. -/
  generated : Bool := false
  deriving DecidableEq, Repr, Inhabited

namespace BiblioEntry

/-- An entry needs a key and a title. -/
def isValid (e : BiblioEntry) : Bool := !e.key.isEmpty && !e.title.isEmpty

/-- The name that the entry is listed under. -/
def displayKey (e : BiblioEntry) : String := e.preferredAlias.getD e.key

/-- The URL for a status, or the other one if it is missing. -/
def urlFor (e : BiblioEntry) : Status → Option String
  | .current => e.url <|> e.snapshotUrl
  | .snapshot => e.snapshotUrl <|> e.url

/-- The authors as cited, and whether others are left out: up to three are named, of more the
first. -/
def citedAuthors (e : BiblioEntry) : String × Bool :=
  match e.authors ++ e.foreignAuthors with
  | [] => ("???", e.etAl)
  | [a] => (a, e.etAl)
  | [a, b] => ("; ".intercalate [a, b], e.etAl)
  | [a, b, c] => ("; ".intercalate [a, b, c], e.etAl)
  | a :: _ => (a, true)

/-- The line of markup that cites the entry. -/
def citation (e : BiblioEntry) (status : Status) : String :=
  let (authors, others) := e.citedAuthors
  let sentence := fun (part : Option String) (ending : String) =>
    match part with
    | some s => s ++ ending
    | none => ""
  let title := match e.urlFor status with
    | some url => "<a href=\"" ++ url ++ "\">" ++ e.title ++ "</a>. "
    | none => e.title ++ ". "
  let source := match e.urlFor status with
    | some url => "URL: <a href=\"" ++ url ++ "\">" ++ url ++ "</a>"
    | none => ""
  Text.trimEnd <| authors ++ (if others then "; et al. " else ". ") ++ title ++
    sentence e.date ". " ++ sentence e.status ". " ++ sentence e.other " " ++ source

def toJson (e : BiblioEntry) : Json := .record [
  ("key", .text e.key),
  ("title", .text e.title),
  ("url", .option .text e.url),
  ("snapshot_url", .option .text e.snapshotUrl),
  ("authors", .list .text e.authors),
  ("foreign_authors", .list .text e.foreignAuthors),
  ("et_al", .bool e.etAl),
  ("date", .option .text e.date),
  ("status", .option .text e.status),
  ("publisher", .option .text e.publisher),
  ("other", .option .text e.other),
  ("book_name", .option .text e.bookName),
  ("city", .option .text e.city),
  ("journal", .option .text e.journal),
  ("volume_number", .option .text e.volumeNumber),
  ("number_in_volume", .option .text e.numberInVolume),
  ("page_number", .option .text e.pageNumber),
  ("report_number", .option .text e.reportNumber),
  ("abstract_text", .option .text e.abstractText),
  ("preferred_alias", .option .text e.preferredAlias),
  ("superseded_by", .option .text e.supersededBy),
  ("order", .nat e.order.toNat),
  ("generated", .bool e.generated)]

def memberNames : List String := [
  "key", "title", "url", "snapshot_url", "authors", "foreign_authors", "et_al", "date", "status",
  "publisher", "other", "book_name", "city", "journal", "volume_number", "number_in_volume",
  "page_number", "report_number", "abstract_text", "preferred_alias", "superseded_by", "order",
  "generated"]

def ofJson? (j : Json) : Option BiblioEntry := do
  match ← j.slots? memberNames with
  | [key, title, url, snapshotUrl, authors, foreignAuthors, etAl, date, status, publisher, other,
      bookName, city, journal, volumeNumber, numberInVolume, pageNumber, reportNumber,
      abstractText, preferredAlias, supersededBy, order, generated] =>
    return {
      key := ← key.required Json.text?
      title := ← title.required Json.text?
      url := ← url.orNone Json.text?
      snapshotUrl := ← snapshotUrl.orNone Json.text?
      authors := ← authors.withDefault [] Json.texts?
      foreignAuthors := ← foreignAuthors.withDefault [] Json.texts?
      etAl := ← etAl.withDefault false Json.bool?
      date := ← date.orNone Json.text?
      status := ← status.orNone Json.text?
      publisher := ← publisher.orNone Json.text?
      other := ← other.orNone Json.text?
      bookName := ← bookName.orNone Json.text?
      city := ← city.orNone Json.text?
      journal := ← journal.orNone Json.text?
      volumeNumber := ← volumeNumber.orNone Json.text?
      numberInVolume := ← numberInVolume.orNone Json.text?
      pageNumber := ← pageNumber.orNone Json.text?
      reportNumber := ← reportNumber.orNone Json.text?
      abstractText := ← abstractText.orNone Json.text?
      preferredAlias := ← preferredAlias.orNone Json.text?
      supersededBy := ← supersededBy.orNone Json.text?
      order := ← order.withDefault 0 Json.word?
      generated := ← generated.withDefault false Json.bool? }
  | _ => none

end BiblioEntry

namespace BiblioOrder

/-- The order of entries of the document's own bibliography. -/
def project : UInt32 := 0

/-- The order of entries of the refer database. -/
def refer : UInt32 := 1

/-- The order of entries of specref files beside the database. -/
def specref : UInt32 := 2

/-- The order of entries that are always known. -/
def builtin : UInt32 := 3

end BiblioOrder

end SpecLink
