import SpecLink.Linking

/-!
# Documents

A document is its metadata with the elements that define terms and the elements that link to them.
Linking it gives the document with its links, the reports, and what it refers to.
-/
namespace SpecLink

structure Document where
  metadata : Metadata := {}
  definitions : List Element := []
  links : List Element := []
  deriving DecidableEq

namespace Document

def toJson (d : Document) : Json := .record [
  ("metadata", d.metadata.toJson),
  ("dfns", .list Element.toJson d.definitions),
  ("autolinks", .list Element.toJson d.links)]

def ofJson? (j : Json) : Option Document := do
  match ← j.slots? ["metadata", "dfns", "autolinks"] with
  | [metadata, definitions, links] =>
    return {
      metadata := ← metadata.withDefault {} Metadata.ofJson?
      definitions := ← definitions.withDefault [] (Json.list? Element.ofJson?)
      links := ← links.withDefault [] (Json.list? Element.ofJson?) }
  | _ => none

end Document

/-- A document after linking. -/
structure LinkedDocument where
  report : LinkReport
  document : Document
  diagnostics : List Diagnostic
  /-- The specs that links go to, and whether some link is normative. -/
  specsUsed : List (String × Bool)
  normativeReferences : List BiblioEntry
  informativeReferences : List BiblioEntry
  /-- Some report was severe enough to give up the build. -/
  aborted : Bool
  deriving DecidableEq

namespace LinkedDocument

/-- The counts of the reports of a severity. -/
def countOf (d : LinkedDocument) (severity : Severity) : Nat :=
  d.diagnostics.countP fun diagnostic => diagnostic.severity == severity

/-- The members of the written form except the time that linking took. -/
def members (d : LinkedDocument) : List (String × Json) := [
  ("report", d.report.toJson),
  ("document", d.document.toJson),
  ("diagnostics", .list Diagnostic.toJson d.diagnostics),
  ("specs_used", .list (fun use => .array [.text use.1, .bool use.2]) d.specsUsed),
  ("normative_references", .list BiblioEntry.toJson d.normativeReferences),
  ("informative_references", .list BiblioEntry.toJson d.informativeReferences),
  ("aborted", .bool d.aborted)]

/-- The written form, with the time that linking took in milliseconds. -/
def toJson (d : LinkedDocument) (elapsed : Nat) : Json :=
  .record (d.members ++ [("duration_ms", .nat elapsed)])

/-- What a resolver says of a document whose links it resolved. -/
def ofResolver (r : Resolver) (report : LinkReport) (document : Document) : LinkedDocument where
  report
  document
  diagnostics := r.messages.diagnostics
  specsUsed := r.usages.specs
  normativeReferences := r.usages.normativeEntries
  informativeReferences := r.usages.informativeEntries
  aborted := r.messages.shouldAbort

end LinkedDocument

/-- Links a document with a new resolver. -/
def Resolver.linkDocument (start : Resolver) (document : Document) :
    Except Failure LinkedDocument := do
  let (collected, r) := (collect document.definitions).on start
  let count ← collected
  let (pass, r) := linkElements document.links r.finish
  let report ← pass.outcome
  return .ofResolver r { report with definitions := count } { document with links := pass.elements }

end SpecLink
