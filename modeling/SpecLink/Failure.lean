import SpecLink.Kind
import SpecLink.SortedMap
import SpecLink.SortedSet
import SpecLink.Status
import SpecLink.Text.Quoted

/-!
# Failures

What can go wrong, by cause. The wording of every cause is in `Failure.message`; a search that comes
to nothing is the only failure that lets a build go on.
-/
namespace SpecLink

/-- The values that the pieces `key: value` of a line give to each key, in order. -/
abbrev InfoRecord := SortedMap (List String)

/-- A record as it is shown inside a message. -/
def InfoRecord.show (record : InfoRecord) : String :=
  let pieces := record.entries.map fun e => Text.quote e.1 ++ ": " ++ Text.quoteList e.2
  "\x7b" ++ ", ".intercalate pieces ++ "\x7d"

/-- The step of a search that no candidate passed. -/
inductive SearchStage where
  | text
  | exported
  | scope
  | spec
  | ignoredSpecs
  | status
  deriving DecidableEq, Repr, Inhabited

def SearchStage.show : SearchStage → String
  | .text => "no matching text"
  | .exported => "none exported"
  | .scope => "for-scope mismatch"
  | .spec => "spec mismatch"
  | .ignoredSpecs => "only in ignored specs"
  | .status => "incompatible status"

/-- A call that came before or after its time. -/
inductive PhaseFault where
  /-- The index is sealed and takes no further definition. -/
  | indexSealed (id : String)
  /-- The index was asked before it was sealed. -/
  | indexOpen (text : String)
  /-- Linking has begun and no further definition is taken. -/
  | linkingBegun (id : String)
  /-- A link was looked up while definitions are collected. -/
  | collecting (text : String)
  deriving DecidableEq, Repr

def PhaseFault.show : PhaseFault → String
  | .indexSealed id => s!"cannot add definition '#{id}' after the definition index was sealed"
  | .indexOpen text =>
    s!"definition index queried for '{text}' while definitions are still being collected"
  | .linkingBegun id => s!"cannot add definition '#{id}' once link resolution has started"
  | .collecting text => s!"'{text}' was looked up while local definitions are still being collected"

/-- Data that a project needs and does not have. -/
inductive MissingData where
  /-- The data has no table of specs. -/
  | specsTable (file source : String)
  | directory (path configPath : String)
  deriving DecidableEq, Repr

/-- What is missing, and what to do about it. -/
def MissingData.show : MissingData → String
  | .specsTable file source =>
    s!"no '{file}' in spec data at {source}; " ++
      "run the spec-data update to download the anchor database"
  | .directory path configPath =>
    s!"spec-data directory '{path}' not found; " ++
      s!"set 'data_dir' in '{configPath}' or download the spec data into that directory"

/-- Why a text is not in its format. -/
inductive ParseFault where
  /-- A data file that is not JSON of the expected shape. -/
  | dataFile
  | referLine (line : String)
  | referField (code : Char)
  | defaultsClause (clause : String)
  | indentation (line : String)
  | indentJump (levels : Nat) (line : String)
  | infoGrammar (line : String)
  | notExactlyOne (key : String) (record : InfoRecord)
  | noIgnoredSpec (record : InfoRecord)
  | severalReplacements (record : InfoRecord)
  /-- A definition without an id, shown as an element. -/
  | noId (element : String)
  deriving DecidableEq

def ParseFault.show : ParseFault → String
  | .dataFile => "unexpected JSON"
  | .referLine line => s!"biblio line in unexpected format: {line}"
  | .referField code => s!"unknown biblio field code '%{code}'"
  | .defaultsClause clause =>
    "'Link Defaults' is a comma-separated list of '<spec> (<dfn-type>) <terms>'. Got:\n" ++ clause
  | .indentation line =>
    "line has inconsistent indentation; use tabs or 4 spaces:\n" ++ line
  | .indentJump levels line => s!"line jumps {levels} indent levels:\n" ++ line
  | .infoGrammar line => "line doesn't match the grammar `k:v; k:v; k:v`:\n" ++ line
  | .notExactlyOne key record =>
    s!"every link default needs exactly one '{key}'. Got: " ++ record.show
  | .noIgnoredSpec record =>
    "every ignored spec line needs at least one 'spec' value. Got: " ++ record.show
  | .severalReplacements record =>
    "every ignored spec line needs at most one 'replacedBy' value. Got: " ++ record.show
  | .noId element => "definition has no id: " ++ element

/-- Why the configuration could not be read or written, or why a build was given up. -/
inductive ConfigFault where
  | unreadable (path : String)
  | malformed (path : String)
  | noDirectory (path : String)
  | unwritable (path : String)
  | notRenamed (source target : String)
  | stopped
  deriving DecidableEq, Repr

def ConfigFault.show : ConfigFault → String
  | .unreadable path => s!"failed to read config file '{path}'"
  | .malformed path => s!"failed to parse config file '{path}'"
  | .noDirectory path => s!"failed to create directory '{path}'"
  | .unwritable path => s!"failed to write temporary config file '{path}'"
  | .notRenamed source target =>
    s!"failed to rename temporary config file '{source}' to '{target}'"
  | .stopped => "build stopped at the configured die-on level"

/-- The `#id` of a definition and, if known, its line. -/
def documentSite (id : String) : Option UInt32 → String
  | some line => s!"#{id} (line {line.toNat})"
  | none => s!"#{id}"

inductive Failure where
  | unknownKind (name : String)
  | unknownStatus (name : String)
  /-- Two definitions of one kind and scope share a text. -/
  | duplicateDefinition (kind : DefinitionKind) (text : String) (scope : SortedSet)
      (first second : String)
  /-- A text is both a linking text and a document-local linking text of one definition. -/
  | conflictingText (text site : String)
  | notFound (kind : LinkKind) (text : String) (stage : SearchStage)
  | unknownSection (spec id : String)
  | ambiguousSection (spec id : String) (pages : List String)
  | phase (fault : PhaseFault)
  | missingData (fault : MissingData)
  | parse (fault : ParseFault) (source : String) (line : Option Nat)
  | config (fault : ConfigFault)
  /-- A file could not be read or written. -/
  | io
  /-- A text given by the user is not JSON of the expected shape. -/
  | json
  deriving DecidableEq

namespace Failure

def message : Failure → String
  | .unknownKind name => s!"unknown link type '{name}'"
  | .unknownStatus name =>
    s!"unknown spec status '{name}'; status must be 'current' or 'snapshot'"
  | .duplicateDefinition kind text scope first second =>
    let forScope := if scope.isEmpty then "" else " for '" ++ scope.join ", " ++ "'"
    s!"Multiple local '{kind.name}' <dfn>s{forScope} have the same linking text '{text}'." ++
      s!" (first: {first}, second: {second})"
  | .conflictingText text site =>
    s!"the term '{text}' is in both lt and local-lt of the element '{site}'"
  | .notFound kind text stage => s!"no '{kind.name}' refs found for '{text}' ({stage.show})"
  | .unknownSection spec id => s!"couldn't find section '{id}' in spec '{spec}'"
  | .ambiguousSection spec id pages =>
    s!"multiple headings with id '{id}' for spec '{spec}'; please specify one of: " ++
      ", ".intercalate pages
  | .phase fault => "phase error: " ++ fault.show
  | .missingData fault => "missing data: " ++ fault.show
  | .parse fault source line =>
    let place := match line with
      | some n => s!"Some({n})"
      | none => "None"
    s!"parse error: {fault.show} (source: {source}, line: {place})"
  | .config fault => "config error: " ++ fault.show
  | .io => "io error"
  | .json => "json error"

/-- The failure halts a build whatever the caller tolerates. -/
def isFatal : Failure → Bool
  | .notFound .. => false
  | _ => true

end Failure

/-- Results that may be failures are compared like their parts. -/
instance {α : Type} [DecidableEq α] : DecidableEq (Except Failure α)
  | .ok a, .ok b => decidable_of_iff (a = b) ⟨congrArg Except.ok, Except.ok.inj⟩
  | .error e, .error f => decidable_of_iff (e = f) ⟨congrArg Except.error, Except.error.inj⟩
  | .ok _, .error _ => isFalse nofun
  | .error _, .ok _ => isFalse nofun

/-- Reads the word for a kind of definition. -/
def DefinitionKind.read (s : String) : Except Failure DefinitionKind :=
  let name := Text.trim s
  match ofName? name with
  | some kind => .ok kind
  | none => .error (.unknownKind name)

/-- Reads the word for a kind of link. -/
def LinkKind.read (s : String) : Except Failure LinkKind :=
  let name := Text.trim s
  match ofName? name with
  | some kind => .ok kind
  | none => .error (.unknownKind name)

def Status.read (s : String) : Except Failure Status :=
  match read? s with
  | some status => .ok status
  | none => .error (.unknownStatus (Text.trim s))

end SpecLink
