import SpecLink.Biblio.Entry
import SpecLink.DataSource

/-!
# The specref format

An object of records by key. A record is an alias of another key or describes an entry; records
without a title are left out.
-/
namespace SpecLink.Specref

/-- A record of the format. -/
structure Record where
  title : Option String := none
  href : Option String := none
  authors : List String := []
  etAl : Bool := false
  rawDate : Option String := none
  status : Option String := none
  publisher : Option String := none
  aliasOf : Option String := none
  obsoletedBy : List String := []
  preferredAlias : Option String := none
  deriving DecidableEq, Repr

def Record.ofJson? (j : Json) : Option Record := do
  match ← j.slots? ["title", "href", "authors", "etAl", "rawDate", "status", "publisher",
      "aliasOf", "obsoletedBy", "preferredAlias"] with
  | [title, href, authors, etAl, rawDate, status, publisher, aliasOf, obsoletedBy,
      preferredAlias] =>
    return {
      title := ← title.orNone Json.text?
      href := ← href.orNone Json.text?
      authors := ← authors.withDefault [] Json.texts?
      etAl := ← etAl.withDefault false Json.bool?
      rawDate := ← rawDate.orNone Json.text?
      status := ← status.orNone Json.text?
      publisher := ← publisher.orNone Json.text?
      aliasOf := ← aliasOf.orNone Json.text?
      obsoletedBy := ← obsoletedBy.withDefault [] Json.texts?
      preferredAlias := ← preferredAlias.orNone Json.text? }
  | _ => none

/-- What a file gives: entries, and pairs of an alias and its target. -/
structure Contents where
  entries : List BiblioEntry := []
  aliases : List (String × String) := []
  deriving DecidableEq, Repr

/-- The entry of a record that is no alias. -/
def Record.entryWith? (r : Record) (key : String) (order : UInt32) : Option BiblioEntry :=
  r.title.map fun title => {
    key, title, order
    url := r.href
    authors := r.authors
    etAl := r.etAl
    date := r.rawDate
    status := r.status
    publisher := r.publisher
    preferredAlias := r.preferredAlias
    supersededBy := r.obsoletedBy.head?.map Text.lowercase }

/-- The alias that a record stands for. -/
def aliasOf? (record : String × Record) : Option (String × String) :=
  record.2.aliasOf.map fun target => (Text.lowercase record.1, Text.lowercase target)

/-- The entry that a record stands for. -/
def entryOf? (order : UInt32) (record : String × Record) : Option BiblioEntry :=
  match record.2.aliasOf with
  | some _ => none
  | none => record.2.entryWith? (Text.lowercase record.1) order

/-- The contents of a file, in the order of its keys as written. -/
def parse (text source : String) (order : UInt32) : Except Failure Contents := do
  let records ← readDataFile (Json.map? Record.ofJson?) source text
  return {
    entries := records.entries.filterMap (entryOf? order)
    aliases := records.entries.filterMap aliasOf? }

end SpecLink.Specref
