import SpecLink.Anchor.Store
import SpecLink.Biblio.Store
import SpecLink.Config
import SpecLink.Defaults.Block
import SpecLink.Defaults.Clause
import SpecLink.DefinitionIndex
import SpecLink.Metadata
import SpecLink.Selection
import SpecLink.Usages

/-!
# Resolution of links

A resolver holds all that a document's links are resolved against. It first takes the document's
definitions; once it is sealed it answers for links, bibliography entries and sections, reports what
fails and notes what is used.
-/
namespace SpecLink

/-- How far the work on a document is. -/
inductive LinkPhase where
  | collecting
  | complete
  | resolving
  deriving DecidableEq, Repr, Inhabited

def LinkPhase.name : LinkPhase → String
  | .collecting => "collecting"
  | .complete => "sealed"
  | .resolving => "resolving"

structure Resolver where
  phase : LinkPhase := .collecting
  definitions : DefinitionIndex := {}
  anchors : AnchorStore
  biblio : BiblioStore
  defaults : DefaultTable := {}
  ignoredSpecs : List String := []
  /-- Pairs of a spec and the spec that replaces it. -/
  replacedSpecs : List (String × String) := []
  defaultStatus : Status := .current
  /-- The document's own short name in lowercase, without and with its level. -/
  shortname : String := ""
  versionedName : String := ""
  messages : MessageLog := {}
  usages : Usages := {}

namespace Resolver

def report (r : Resolver) (severity : Severity) (text : String) (line : Option UInt32) : Resolver :=
  { r with messages := r.messages.report ⟨severity, text, line⟩ }

/-- Takes over what was read, or reports why it could not be read. -/
def takeOver {α : Type} (r : Resolver) (use : Resolver → α → Resolver) :
    Except Failure α → Resolver
  | .ok a => use r a
  | .error failure => r.report .fatal failure.message none

def addDefaults (r : Resolver) (rules : List DefaultRule) : Resolver :=
  { r with defaults := r.defaults.addAll rules }

/-- Appends a pair unless it is listed. -/
def listPair (pairs : List (String × String)) (pair : String × String) : List (String × String) :=
  if pairs.contains pair then pairs else pairs ++ [pair]

def addIgnored (r : Resolver) (specs : Defaults.IgnoredSpecs) : Resolver :=
  { r with
    ignoredSpecs := r.ignoredSpecs ++ specs.ignored
    replacedSpecs := specs.replaced.foldl listPair r.replacedSpecs }

/-- A resolver over two stores before the document's link defaults are read. -/
def start (anchors : AnchorStore) (biblio : BiblioStore) (config : Config) (metadata : Metadata) :
    Resolver where
  anchors := anchors.suppress metadata.shortname
  biblio := { biblio with specs := anchors.specs }
  ignoredSpecs := config.ignoredSpecs.map Text.lowercase
  replacedSpecs := config.replacedSpecs
  defaultStatus := metadata.defaultStatus
  shortname := Text.lowercase (Text.trim metadata.shortname)
  versionedName := Text.lowercase metadata.versionedName
  messages := { abortLevel := config.abortLevel }

/-- Reads a block of lines unless it is empty. -/
def takeOverBlock {α : Type} (r : Resolver) (use : Resolver → α → Resolver)
    (parse : List String → Option Nat → Except Failure α) (lines : List String) : Resolver :=
  if lines.isEmpty then r else r.takeOver use (parse lines none)

/-- A resolver over two stores. What is malformed in the metadata is reported, the rest counts. -/
def ofStores (anchors : AnchorStore) (biblio : BiblioStore) (config : Config)
    (metadata : Metadata) : Resolver :=
  let r := metadata.linkDefaults.foldl (fun r value =>
    r.takeOver addDefaults (Defaults.parseMetadata value)) (start anchors biblio config metadata)
  let r := r.takeOverBlock addDefaults Defaults.parseBlock metadata.linkDefaultLines
  r.takeOverBlock addIgnored Defaults.parseIgnoredSpecs metadata.ignoredSpecLines

/-- A resolver over the data of a source. -/
def load (source : DataSource) (config : Config) (metadata : Metadata) :
    Except Failure Resolver := do
  return ofStores (← AnchorStore.load source) (← BiblioStore.load source) config metadata

/-- Adds a definition of the document. -/
def define (d : Definition) : Action Resolver Nat := do
  if (← get).phase != .collecting then throw (.phase (.linkingBegun d.id))
  (DefinitionIndex.insert d).within definitions fun r index => { r with definitions := index }

/-- Ends the collection of definitions, if it has not ended yet. -/
def finish (r : Resolver) : Resolver :=
  match r.phase with
  | .collecting => { r with phase := .complete, definitions := r.definitions.finish }
  | _ => r

/-- Starts the resolution of links, of which the given one may be the first. -/
def beginResolving (text : String) : Action Resolver Unit := do
  let r ← get
  match r.phase with
  | .collecting => throw (.phase (.collecting text))
  | .complete => set { r with phase := .resolving }
  | .resolving => return

/-- What restricts the document's links. -/
def policy (r : Resolver) : LinkPolicy where
  ignoredSpecs := r.ignoredSpecs
  replacedSpecs := r.replacedSpecs
  shortname := r.shortname
  versionedName := r.versionedName
  specs := r.anchors.specs

def queryOf (r : Resolver) (request : LinkRequest) : LinkQuery :=
  .ofRequest r.defaults r.defaultStatus request

/-- An action on the anchors. -/
def onAnchors {α : Type} (action : Action AnchorStore α) : Action Resolver α :=
  action.within anchors fun r store => { r with anchors := store }

/-- An action on the bibliography. -/
def onBiblio {α : Type} (action : Action BiblioStore α) : Action Resolver α :=
  action.within biblio fun r store => { r with biblio := store }

/-- The candidates under a text, those of the document first. -/
def candidatesFor (kind : LinkKind) (text : String) : Action Resolver (List Candidate) := do
  let own ← Action.ofExcept ((← get).definitions.find kind text)
  return own ++ (← onAnchors (AnchorStore.find kind text))

/-- The candidates under the first of some texts that has any. -/
def gather (kind : LinkKind) : List String → Action Resolver (List Candidate)
  | [] => return []
  | text :: rest => do
    match ← candidatesFor kind text with
    | [] => gather kind rest
    | found => return found

/-- A failure to resolve the request is reported. Guesses and links to extended attributes fail
without a word. -/
def reportsFailure (request : LinkRequest) (query : LinkQuery) : Bool :=
  request.allowError && request.kind != .maybe && query.kind != .exact .extendedAttribute

/-- Reports that a search ended without a target. -/
def reportFailure (request : LinkRequest) (query : LinkQuery) (stage : SearchStage)
    (r : Resolver) : Resolver :=
  if reportsFailure request query then
    r.report .linkError (query.failureMessage stage) request.line
  else r

/-- Warns about a choice among several targets. -/
def reportChoice (request : LinkRequest) (choice : Choice) (r : Resolver) : Resolver :=
  match choice.warning with
  | some text => if request.allowError then r.report .warning text request.line else r
  | none => r

def recordSpec (id : String) (normative : Bool) (r : Resolver) : Resolver :=
  { r with usages := r.usages.recordSpec id normative }

def recordBiblio (e : BiblioEntry) (normative : Bool) (r : Resolver) : Resolver :=
  { r with usages := r.usages.recordBiblio e normative }

/-- Looks up a bibliography entry and reports what there is to say about it. -/
def lookUpBiblio (request : BiblioRequest) : Action Resolver (Option BiblioEntry) := do
  let status := (← get).defaultStatus
  let (entry, remark) ← onBiblio (BiblioStore.lookup request status)
  match remark with
  | some d => modify fun r => r.report d.severity d.text d.line
  | none => pure ()
  return entry

/-- Records the spec that a link goes to, and cites it. -/
def recordTarget (query : LinkQuery) (normative : Bool) (target : Candidate) :
    Action Resolver Unit := do
  match target.origin with
  | .document .. => return
  | .external specId .. =>
    let normative := normative && target.normative
    modify (recordSpec specId normative)
    -- A spec outside the bibliography is cited by a stand-in, and nothing is said of it.
    let entry ← lookUpBiblio
      { key := specId, status := some query.status, standIn := true, quiet := true }
    match entry with
    | some e => modify (recordBiblio e normative)
    | none => return

/-- Resolves a link. -/
def resolve (request : LinkRequest) : Action Resolver ResolvedLink := do
  beginResolving request.text
  let query := (← get).queryOf request
  -- The names of custom properties are the author's own; nothing is reported.
  if query.isCustomProperty then throw (.notFound query.kind query.text .text)
  let candidates ← gather query.kind query.texts
  match Selection.select (← get).policy query candidates with
  | .error stage =>
    modify (reportFailure request query stage)
    throw (.notFound query.kind query.text stage)
  | .ok choice =>
    modify (reportChoice request choice)
    recordTarget query request.normative choice.link.candidate
    return choice.link

/-- Looks up a bibliography entry and cites it. -/
def cite (request : BiblioRequest) : Action Resolver (Option BiblioEntry) := do
  let entry ← lookUpBiblio request
  match entry with
  | some e => modify (recordBiblio e request.normative)
  | none => pure ()
  return entry

/-- Looks up a section of another spec. -/
def findSection (spec id : String) (status : Option Status) : Action Resolver Heading := do
  -- A link to a section uses its spec, but not normatively.
  let name := Text.lowercase (Text.trim spec)
  let table ← onAnchors (AnchorStore.headingsOf name)
  let heading ← Action.ofExcept (table.find id (status.getD (← get).defaultStatus))
  modify (recordSpec name false)
  return heading

end Resolver

end SpecLink
