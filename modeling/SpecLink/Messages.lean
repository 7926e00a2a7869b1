import SpecLink.Grouping
import SpecLink.Json.Record

/-!
# Messages of a build

A log keeps every report in order. What is shown of it are the reports whose wording is new, each
once; a build is given up as soon as one of those is severe enough.
-/
namespace SpecLink

/-- How bad a report is, the worst first. -/
inductive Severity where
  | fatal
  | linkError
  | warning
  | message
  deriving DecidableEq, Repr, Inhabited

namespace Severity

def all : List Severity := [.fatal, .linkError, .warning, .message]

def name : Severity → String
  | .fatal => "fatal"
  | .linkError => "link-error"
  | .warning => "warning"
  | .message => "message"

def ofName? (s : String) : Option Severity := all.find? fun severity => severity.name == s

end Severity

/-- The mildest severity that makes a build give up. -/
inductive AbortLevel where
  | nothing
  | fatal
  | linkError
  | warning
  | everything
  deriving DecidableEq, Repr, Inhabited

namespace AbortLevel

def all : List AbortLevel := [.nothing, .fatal, .linkError, .warning, .everything]

def name : AbortLevel → String
  | .nothing => "nothing"
  | .fatal => "fatal"
  | .linkError => "link-error"
  | .warning => "warning"
  | .everything => "everything"

def ofName? (s : String) : Option AbortLevel := all.find? fun level => level.name == s

/-- A report of the given severity makes the build give up. -/
def triggers : AbortLevel → Severity → Bool
  | .nothing, _ => false
  | .fatal, s => s == .fatal
  | .linkError, s => s == .fatal || s == .linkError
  | .warning, s => s == .fatal || s == .linkError || s == .warning
  | .everything, _ => true

end AbortLevel

/-- A report, with the line of the source that it is about if that is known. -/
structure Diagnostic where
  severity : Severity
  text : String
  line : Option UInt32 := none
  deriving DecidableEq, Repr, Inhabited

namespace Diagnostic

/-- The text with its line. -/
def wording (d : Diagnostic) : String :=
  match d.line with
  | some line => s!"LINE {line.toNat}: " ++ d.text
  | none => d.text

/-- Two reports with one key say the same. -/
def key (d : Diagnostic) : String := d.severity.name ++ "|" ++ d.wording

def toJson (d : Diagnostic) : Json := .record [
  ("level", .text d.severity.name),
  ("text", .text d.text),
  ("line", .option (fun n => .nat n.toNat) d.line)]

def ofJson? (j : Json) : Option Diagnostic := do
  match ← j.slots? ["level", "text", "line"] with
  | [severity, text, line] =>
    return ⟨← severity.required (Json.name? Severity.ofName?), ← text.required Json.text?,
      ← line.optional Json.word?⟩
  | _ => none

end Diagnostic

structure MessageLog where
  abortLevel : AbortLevel := .fatal
  /-- Every report so far, repetitions included. -/
  reports : List Diagnostic := []
  deriving DecidableEq, Repr, Inhabited

namespace MessageLog

def report (log : MessageLog) (d : Diagnostic) : MessageLog :=
  { log with reports := log.reports ++ [d] }

/-- A report of this diagnostic would be shown. -/
def isNews (log : MessageLog) (d : Diagnostic) : Bool := log.reports.all fun e => e.key != d.key

/-- What is shown of the log. -/
def diagnostics (log : MessageLog) : List Diagnostic :=
  Grouping.firstOfEach Diagnostic.key log.reports

/-- Some shown report is severe enough to give up the build. -/
def shouldAbort (log : MessageLog) : Bool :=
  log.diagnostics.any fun d => log.abortLevel.triggers d.severity

/-- The number of shown reports of a severity. -/
def count (log : MessageLog) (severity : Severity) : Nat :=
  log.diagnostics.countP fun d => d.severity == severity

end MessageLog

end SpecLink
