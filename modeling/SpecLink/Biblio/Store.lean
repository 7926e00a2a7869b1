import SpecLink.Action
import SpecLink.Biblio.Refer
import SpecLink.Biblio.Specref
import SpecLink.LinkText
import SpecLink.Messages
import SpecLink.Spec
import SpecLink.Text.EditDistance
import SpecLink.Text.Word

/-!
# The bibliography

Entries are found by key, then by alias, then without a version number. The refer database is split
into shards by key; a shard is loaded when one of its keys is first asked for. An obsolete entry
gives way to its successor, and a key without an entry may get a stand-in.
-/
namespace SpecLink

structure BiblioStore where
  source : DataSource
  /-- The specs that stand-ins describe. -/
  specs : SpecTable := ∅
  /-- Entries under their lowercase keys, the latest first. -/
  entries : List (String × BiblioEntry) := []
  /-- Keys that stand for others, the latest first. -/
  aliases : List (String × String) := []
  /-- Shards that have been asked for. -/
  loaded : List String := []
  /-- Keys that suggestions are made from. -/
  knownKeys : List String := []

/-- A request for a bibliography entry. -/
structure BiblioRequest where
  key : String
  /-- The status that a stand-in gets, if not the document's own. -/
  status : Option Status := none
  /-- An obsolete entry is wanted as it is. -/
  allowObsolete : Bool := false
  /-- A key without an entry gets a stand-in. -/
  standIn : Bool := false
  /-- Nothing is reported. -/
  quiet : Bool := false
  normative : Bool := false
  deriving DecidableEq, Repr

/-- The form in which keys are looked up. -/
def BiblioRequest.lookupKey (request : BiblioRequest) : String :=
  Text.lowercase (Text.trim request.key)

/-- What a lookup comes to, before stand-ins. -/
inductive BiblioAnswer where
  | found (entry : BiblioEntry)
  /-- The entry is obsolete and its successor exists. -/
  | succeeded (obsolete successor : BiblioEntry)
  /-- The entry is obsolete and there is no entry under the key of its successor. -/
  | noSuccessor (obsolete : BiblioEntry) (key : String)
  /-- A numbered key was asked for, and there are only others of its name. -/
  | wrongVersion (versions : List String)
  | missing
  deriving DecidableEq, Repr

namespace BiblioStore

/-- Of entries, the latest first, the one of least order, and of several the earliest. -/
def preferred : List BiblioEntry → Option BiblioEntry
  | [] => none
  | e :: older =>
    match preferred older with
    | none => some e
    | some best => if e.order < best.order then some e else some best

/-- The entries under a lowercase key, the latest first. -/
def entriesFor (store : BiblioStore) (key : String) : List BiblioEntry :=
  (store.entries.filter fun e => e.1 == key).map Prod.snd

/-- The entry under a lowercase key. -/
def entryUnder? (store : BiblioStore) (key : String) : Option BiblioEntry :=
  preferred (store.entriesFor key)

/-- The key that a key stands for. -/
def aliasTarget? (store : BiblioStore) (key : String) : Option String := store.aliases.lookup key

def know (store : BiblioStore) (key : String) : BiblioStore :=
  { store with knownKeys := key :: store.knownKeys }

/-- The name that an entry prefers becomes an alias of its key, unless it is one already. -/
def addPreferredAlias (store : BiblioStore) (key name : String) : BiblioStore :=
  if name == key then store
  else if (store.aliasTarget? name).isSome then store.know name
  else { store.know name with aliases := (name, key) :: store.aliases }

def addEntry (store : BiblioStore) (entry : BiblioEntry) : BiblioStore :=
  let key := Text.lowercase entry.key
  let named := match entry.preferredAlias with
    | some name => store.addPreferredAlias key (Text.lowercase name)
    | none => store
  { named.know key with entries := (key, entry) :: store.entries }

/-- Makes a key stand for another, whatever it stood for. -/
def addAlias (store : BiblioStore) (name target : String) : BiblioStore :=
  { store.know (Text.lowercase name) with
    aliases := (Text.lowercase name, Text.lowercase target) :: store.aliases }

/-- Adds the contents of a specref file. -/
def addContents (store : BiblioStore) (contents : Specref.Contents) : BiblioStore :=
  contents.aliases.foldl (fun s a => s.addAlias a.1 a.2) (contents.entries.foldl addEntry store)

/-- Adds a specref file and answers with the number of its entries. -/
def addSpecref (text source : String) (order : UInt32) : Action BiblioStore Nat := do
  let contents ← Action.ofExcept (Specref.parse text source order)
  modify fun store => store.addContents contents
  return contents.entries.length

/-- The entry that nearly every document cites. -/
def requirementLevels : BiblioEntry where
  key := "rfc2119"
  title := "Key words for use in RFCs to Indicate Requirement Levels"
  snapshotUrl := some "https://datatracker.ietf.org/doc/html/rfc2119"
  authors := ["S. Bradner"]
  date := some "March 1997"
  status := some "Best Current Practice"
  order := BiblioOrder.builtin

/-- The store with the entries that are always known. -/
def ofSource (source : DataSource) : BiblioStore := addEntry { source } requirementLevels

/-- The file that lists the keys of the whole database. -/
def keysFile : String := "biblio-keys.json"

/-- Adds the keys of the database's key list, if there is one. -/
def addKeyList (store : BiblioStore) : Except Failure BiblioStore := do
  match ← store.source.fetch keysFile with
  | none => return store
  | some contents =>
    let keys ← readDataFile Json.texts? keysFile contents
    return keys.foldl (fun s key => s.know (Text.lowercase key)) store

/-- Adds a specref file that lies beside the database. -/
def addDataFile (store : BiblioStore) (name : String) : Except Failure BiblioStore := do
  if (Text.stripEnd? ".json" name).isNone then return store
  let path := "biblio/" ++ name
  match ← store.source.fetch path with
  | none => return store
  | some contents => return store.addContents (← Specref.parse contents path BiblioOrder.specref)

/-- The bibliography of a source, without any shard of the database. -/
def load (source : DataSource) : Except Failure BiblioStore := do
  (source.list "biblio").foldlM addDataFile (← (ofSource source).addKeyList)

/-- The file of a shard. -/
def shardPath (shard : String) : String := s!"biblio/biblio-{shard}.data"

/-- Loads the shard of a key unless it has been asked for before. -/
def loadShard (key : String) : Action BiblioStore Unit := do
  let store ← get
  let shard := LinkText.shardName key
  if store.loaded.contains shard then return
  -- The shard counts as loaded even if its file turns out to be unreadable.
  set { store with loaded := shard :: store.loaded }
  match ← Action.ofExcept (store.source.fetch (shardPath shard)) with
  | none => return
  | some contents =>
    let entries ← Action.ofExcept (Refer.parse contents (shardPath shard))
    modify fun s => entries.foldl addEntry s

/-- The entry under a lowercase key, once its shard is loaded. -/
def findExact (key : String) : Action BiblioStore (Option BiblioEntry) := do
  loadShard key
  return (← get).entryUnder? key

/-- The entry under a lowercase key or under the key that it stands for. -/
def findDirect (key : String) : Action BiblioStore (Option BiblioEntry) := do
  match ← findExact key with
  | some e => return some e
  | none =>
    match (← get).aliasTarget? key with
    | some target => findExact target
    | none => return none

/-- The part of a key before its last hyphen, if one or more digits follow and nothing else. -/
def unversioned? (key : String) : Option String :=
  -- Reversed, the number comes first and the last hyphen right behind it.
  let reversed := key.toList.reverse
  match reversed.dropWhile Text.isDecimalDigit with
  | '-' :: base =>
    if base.isEmpty || base.contains '\n' || base.length + 1 == reversed.length then none
    else some (String.ofList base.reverse)
  | _ => none

/-- The key is the base with a number. -/
def isVersionOf (base key : String) : Bool :=
  match Text.stripStart? (base ++ "-") key with
  | some number => !number.isEmpty && number.toList.all Char.isDigit
  | none => false

/-- The known keys that are the base with a number, ascending. -/
def versions (store : BiblioStore) (base : String) : List String :=
  (SortedSet.ofList (store.knownKeys.filter (isVersionOf base))).members

/-- The entry for a lowercase key before succession is looked at. A key with a version number stands
for the key without it, as long as no numbered keys of that name are known. -/
def findKey (key : String) : Action BiblioStore BiblioAnswer := do
  match ← findDirect key with
  | some e => return .found e
  | none =>
    match unversioned? key with
    | none => return .missing
    | some base =>
      -- The versions are those known before the shard of the bare key is loaded.
      let versions := (← get).versions base
      match ← findDirect base with
      | none => return .missing
      | some e => return if versions.isEmpty then .found e else .wrongVersion versions

/-- Follows an entry to its successor, one step. -/
def follow (e : BiblioEntry) : Action BiblioStore BiblioAnswer := do
  match e.supersededBy with
  | none => return .found e
  | some next =>
    match ← findDirect next with
    | some successor => return .succeeded e successor
    | none => return .noSuccessor e next

/-- Looks up a lowercase key. -/
def find (key : String) (allowObsolete : Bool) : Action BiblioStore BiblioAnswer := do
  match ← findKey key with
  | .found e => if allowObsolete then return .found e else follow e
  | answer => return answer

/-- The entry that stands in for a key without one: the spec of that name, or the bare key. -/
def standIn (store : BiblioStore) (key : String) (status : Status) : BiblioEntry :=
  match store.specs.get? key with
  | some spec => {
      key
      title := spec.title.getD key
      url := spec.currentUrl
      snapshotUrl := spec.snapshotUrl
      status := some <| match status with
        | .current => "Editor's Draft"
        | .snapshot => "Snapshot"
      generated := true }
  | none => { key, title := key, generated := true }

/-- The known keys closest to a key, the nearest first. A third of the key's characters may differ,
and two in any case. -/
def suggest (store : BiblioStore) (key : String) (limit : Nat) : List String :=
  let reach := max (key.length / 3) 2
  -- The set orders the keys and drops repetitions; the sort by distance keeps that order.
  let near := store.knownKeys.filter fun k => Text.editDistance key k ≤ reach
  let ranked := (SortedSet.ofList near).members.map fun k => (Text.editDistance key k, k)
  ((ranked.mergeSort fun a b => a.1 ≤ b.1).take limit).map Prod.snd

/-- Items as a phrase: commas between them, the word "and" before the last. -/
def phrase : List String → String
  | [] => ""
  | [one] => one
  | [one, last] => one ++ " and " ++ last
  | first :: rest => first ++ ", " ++ phrase rest

/-- The entry that a request gets. -/
def deliver (store : BiblioStore) (request : BiblioRequest) (status : Status) :
    BiblioAnswer → Option BiblioEntry
  | .found e => some e
  | .succeeded _ successor => some successor
  | .noSuccessor .. => none
  | .wrongVersion _ | .missing =>
    if request.standIn then some (store.standIn request.lookupKey status) else none

/-- What is said about an answer. -/
def remark (store : BiblioStore) (request : BiblioRequest) : BiblioAnswer → Option Diagnostic
  | .found _ => none
  | .succeeded obsolete successor => some ⟨.linkError,
      s!"Obsolete biblio ref: [{obsolete.key}] is replaced by [{successor.key}]. " ++
      s!"Either update the reference, or use [{obsolete.key} obsolete] " ++
      "if this is an intentionally-obsolete reference.", none⟩
  | .noSuccessor obsolete key => some ⟨.fatal,
      s!"[{obsolete.key}] claims to be obsoleted by [{key}], which doesn't exist. " ++
      s!"Either change the reference, or use [{obsolete.key} obsolete] " ++
      "to ignore the obsoletion chain.", none⟩
  | .wrongVersion versions =>
    if request.standIn then none
    else some ⟨.fatal, s!"A biblio link references {request.lookupKey}, but only " ++
      phrase versions ++ " exists in the bibliography data.", none⟩
  | .missing =>
    if request.standIn then none
    else
      let hint := match store.suggest request.lookupKey 5 with
        | [] => ""
        | keys => " Did you mean:" ++ String.join (keys.map ("\n  " ++ ·))
      some ⟨.linkError,
        s!"Couldn't find '{request.lookupKey}' in bibliography data." ++ hint, none⟩

/-- Looks up an entry, with what is to be reported about it. -/
def lookup (request : BiblioRequest) (defaultStatus : Status) :
    Action BiblioStore (Option BiblioEntry × Option Diagnostic) := do
  let answer ← find request.lookupKey request.allowObsolete
  let store ← get
  let remark := if request.quiet then none else store.remark request answer
  return (store.deliver request (request.status.getD defaultStatus) answer, remark)

end BiblioStore

end SpecLink
