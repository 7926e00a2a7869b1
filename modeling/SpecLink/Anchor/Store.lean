import SpecLink.Action
import SpecLink.Anchor.Record
import SpecLink.DataSource
import SpecLink.Heading
import SpecLink.Spec

/-!
# Anchors of other specs

The database is split into shards by text; a shard is loaded when one of its texts is first asked
for, the headings of a spec when one of them is. Anchors of the document's own published spec are
never exported, whenever they are added.
-/
namespace SpecLink

structure AnchorStore where
  source : DataSource
  specs : SpecTable := ∅
  /-- The candidates loaded so far, in order. -/
  anchors : List Candidate := []
  /-- Shards that have been loaded. -/
  loaded : List String := []
  /-- Headings that have been loaded, by spec. -/
  headings : SortedMap HeadingTable := ∅
  /-- The short name of the document's own spec. -/
  ownShortname : Option String := none

namespace AnchorStore

/-- The table of specs. -/
def specsFile : String := "specs.json"

/-- The store of a source, without any shard. -/
def load (source : DataSource) : Except Failure AnchorStore := do
  match ← source.fetch specsFile with
  | none => throw (.missingData (.specsTable specsFile source.name))
  | some contents => return { source, specs := ← readDataFile SpecTable.ofJson? specsFile contents }

/-- The candidate, not exported if it has the given short name. -/
def withhold (shortname : String) (c : Candidate) : Candidate :=
  if c.shortname? == some shortname then { c with exported := false } else c

/-- Names the document's own spec; a blank name names none. -/
def suppress (store : AnchorStore) (shortname : String) : AnchorStore :=
  let name := Text.trim shortname
  if name.isEmpty then store
  else { store with ownShortname := some name, anchors := store.anchors.map (withhold name) }

/-- The form in which the store holds a candidate. -/
def filed (store : AnchorStore) (c : Candidate) : Candidate :=
  let normal := { c with text := LinkText.normalize c.text }
  match store.ownShortname with
  | some name => withhold name normal
  | none => normal

def addAll (store : AnchorStore) (candidates : List Candidate) : AnchorStore :=
  { store with anchors := store.anchors ++ candidates.map store.filed }

def add (store : AnchorStore) (c : Candidate) : AnchorStore := store.addAll [c]

def addSpec (store : AnchorStore) (id : String) (spec : SpecInfo) : AnchorStore :=
  { store with specs := store.specs.insert id spec }

/-- The spec publishes a draft. A spec that is not in the table does not. -/
def hasCurrentUrl (store : AnchorStore) (id : String) : Bool :=
  match store.specs.get? id with
  | some spec => spec.currentUrl.isSome
  | none => false

/-- The file of a shard. -/
def shardPath (shard : String) : String := s!"anchors/anchors-{shard}.json"

/-- The candidates of a shard as its file gives them. -/
def readShard (source : DataSource) (shard : String) : Except Failure (List Candidate) := do
  match ← source.fetch (shardPath shard) with
  | none => return []
  | some contents =>
    let records ← readDataFile AnchorRecord.shardOfJson? (shardPath shard) contents
    return AnchorRecord.candidates records

/-- Loads the shard of a text in normal form unless it is there. -/
def loadShard (text : String) : Action AnchorStore Unit := do
  let store ← get
  let shard := LinkText.shardName text
  if store.loaded.contains shard then return
  -- A shard that cannot be read is tried again the next time.
  let candidates ← Action.ofExcept (readShard store.source shard)
  set { store.addAll candidates with loaded := shard :: store.loaded }

/-- The loaded candidates under a text in normal form that satisfy a kind of link, in order. -/
def matching (store : AnchorStore) (kind : LinkKind) (text : String) : List Candidate :=
  store.anchors.filter fun c => c.text == text && kind.accepts c.kind

/-- The candidates under a text that satisfy a kind of link. -/
def find (kind : LinkKind) (text : String) : Action AnchorStore (List Candidate) := do
  let key := LinkText.normalize text
  loadShard key
  return (← get).matching kind key

/-- The file of a spec's headings. -/
def headingsPath (spec : String) : String := s!"headings/headings-{spec}.json"

/-- The headings of a spec as its file gives them. A missing or blank file has none. -/
def readHeadings (source : DataSource) (spec : String) : Except Failure HeadingTable := do
  match ← source.fetch (headingsPath spec) with
  | none => return { spec }
  | some contents =>
    if Text.isBlankText contents then return { spec }
    let entries ← readDataFile HeadingTable.entriesOfJson? (headingsPath spec) contents
    return { spec, entries }

/-- The headings of a spec, read once. -/
def headingsOf (spec : String) : Action AnchorStore HeadingTable := do
  let store ← get
  match store.headings.get? spec with
  | some table => return table
  | none =>
    let table ← Action.ofExcept (readHeadings store.source spec)
    set { store with headings := store.headings.insert spec table }
    return table

end AnchorStore

end SpecLink
