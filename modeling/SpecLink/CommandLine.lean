import SpecLink.Arguments
import SpecLink.Project

/-!
# The command line

A command opens a project and links a document, resolves one link, or looks up one bibliography
entry or section; or it makes a directory a project. What it prints before it fails stays printed.
-/
namespace SpecLink

inductive Command where
  | init (path : Option String)
  | link (document : String) (path output : Option String)
  | lookup (text kind : String) (spec status : Option String) (scope : List String)
      (shortname path : Option String)
  | biblio (key : String) (status : Option String) (obsolete : Bool) (path : Option String)
  | heading (spec id : String) (status path : Option String)
  deriving DecidableEq, Repr

namespace Command

/-- The option that every command has. -/
def verbose : OptionShape := { name := "verbose", letter := some 'v', takesValue := false }

def pathOption : OptionShape := { name := "path", letter := some 'p' }

def statusOption : OptionShape := { name := "status" }

def names : List String := ["init", "link", "lookup", "biblio", "heading"]

/-- The options of a command besides `verbose`. -/
def optionsOf : String → List OptionShape
  | "link" => [pathOption, { name := "output", letter := some 'o' }]
  | "lookup" => [
    pathOption, statusOption,
    { name := "type", letter := some 't' },
    { name := "spec", letter := some 's' },
    { name := "for", repeatable := true },
    { name := "shortname" }]
  | "biblio" => [pathOption, statusOption, { name := "obsolete", takesValue := false }]
  | "heading" => [pathOption, statusOption]
  | _ => []

/-- The command of the given name with its arguments. -/
def ofArguments? (name : String) (a : Arguments) : Option Command :=
  let path := a.value? "path"
  let status := a.value? "status"
  match name, a.positionals with
  | "init", [] => some (.init none)
  | "init", [path] => some (.init (some path))
  | "link", [document] => some (.link document path (a.value? "output"))
  | "lookup", [text] =>
    some (.lookup text ((a.value? "type").getD "dfn") (a.value? "spec") status (a.valuesOf "for")
      (a.value? "shortname") path)
  | "biblio", [key] => some (.biblio key status (a.has "obsolete") path)
  | "heading", [spec, id] => some (.heading spec id status path)
  | _, _ => none

/-- Reads the arguments that follow the name of a command. -/
def readArguments (name : String) (args : List String) : Except UsageFault Command := do
  -- Further positional arguments are refused where they stand.
  let most := if name == "heading" then 2 else 1
  match ofArguments? name (← Arguments.read (verbose :: optionsOf name) most args) with
  | some command => return command
  | none => throw .malformed

/-- What the command `help` is asked about. -/
def readHelp : List String → UsageFault
  | [] => .help
  | [name] => if names.contains name || name == "help" then .help else .malformed
  | _ => .malformed

/-- Reads a command line: options that every command has, the name of the command, its arguments. -/
def readAfter (common : Arguments) : List String → Except UsageFault Command
  | [] => .error .malformed
  | arg :: rest =>
    match Arguments.shapeOf arg with
    | .endOfOptions => .error .malformed
    | .named written => do readAfter (← Arguments.readName [verbose] common written).done rest
    | .lettered letters => do
      readAfter (← Arguments.readLetters [verbose] common letters).done rest
    | .plain =>
      if arg == "help" then .error (readHelp rest)
      else if names.contains arg then readArguments arg rest
      else .error .malformed

def read (args : List String) : Except UsageFault Command := readAfter {} args

/-- The project that a command names. -/
def path? : Command → Option String
  | .init path | .link _ path _ | .lookup _ _ _ _ _ _ path | .biblio _ _ _ path
  | .heading _ _ _ path => path

end Command

/-- What a command sees and changes: the files, and what it has printed. -/
structure Console where
  tree : FileTree
  output : String := ""

namespace Console

def print (line : String) : Action Console Unit :=
  modify fun c => { c with output := c.output ++ line ++ "\n" }

/-- The result of a computation on the files as they are. -/
def inspect {α : Type} (read : FileTree → Except Failure α) : Action Console α := do
  Action.ofExcept (read (← get).tree)

/-- The directory of the project that a command names; without a name, the working directory. -/
def projectRoot (c : Console) (command : Command) : String :=
  command.path?.getD (if c.tree.workDir.isEmpty then "/" else c.tree.workDir)

/-- Makes a directory a project. -/
def init (dataHome root : String) : Action Console Unit := do
  let project ← (Project.init dataHome root).within tree fun c tree => { c with tree }
  print s!"Initialized bikeshed-refs at {root}"
  print s!"  Spec data: {project.config.dataPath root}"

/-- Reads a document and links it. -/
def linkFile (dataHome root document : String) (tree : FileTree) :
    Except Failure LinkedDocument := do
  let project ← Project.load tree dataHome root
  match (Json.parse? (← tree.readText document)).bind Document.ofJson? with
  | some document => project.link tree document
  | none => throw .json

/-- Says what linking a document came to, and writes the linked document. -/
def reportLink (elapsed : Nat) (output : Option String) (linked : LinkedDocument) :
    Action Console Unit := do
  let report := linked.report
  print <| s!"Linked {report.resolved} autolinks ({report.failed} failed) " ++
    s!"against {report.definitions} definitions in {elapsed}ms"
  print <| s!"  References: {linked.normativeReferences.length} normative, " ++
    s!"{linked.informativeReferences.length} informative"
  let fatal := linked.countOf .fatal
  if fatal > 0 then print s!"  Fatal errors: {fatal}"
  match output with
  | some path =>
    match (← get).tree.writeText? path (linked.toJson elapsed).writePretty with
    | some tree => modify fun c => { c with tree }
    | none => throw .io
    print s!"  Wrote {path}"
  | none => pure ()
  -- The linked document is written even if the build has to stop.
  if linked.aborted then throw (.config .stopped)

/-- Opens a project and its resolver. -/
def resolver (dataHome root : String) (metadata : Metadata) (tree : FileTree) :
    Except Failure Resolver := do
  (← Project.load tree dataHome root).resolver tree metadata

/-- Reads a status that may be missing. -/
def readStatus : Option String → Except Failure (Option Status)
  | some written => (Status.read written).map some
  | none => .ok none

/-- Resolves the link of a request that is read once the resolver is open. -/
def lookUpLink (request : Except Failure LinkRequest) (r : Resolver) :
    Except Failure ResolvedLink := do
  ((Resolver.resolve (← request)).on r.finish).1

/-- The request of a link. -/
def linkRequest (text kind : String) (spec status : Option String) (scope : List String) :
    Except Failure LinkRequest := do
  let kind ← LinkKind.read kind
  let status ← readStatus status
  return { kind, text, spec, status, scope := .ofList scope }

def printLink (link : ResolvedLink) : Action Console Unit := do
  let c := link.candidate
  print link.url
  print s!"  {c.kind.name} '{c.text}' from {c.specLabel}"
  if !c.scope.isEmpty then print ("  for: " ++ c.scope.join ", ")

/-- The entry that a key names, and the line that cites it. -/
def citeKey (key : String) (status : Option String) (obsolete : Bool) (r : Resolver) :
    Except Failure String := do
  let status ← readStatus status
  match ← ((Resolver.cite { key, status, allowObsolete := obsolete }).on r).1 with
  | some e => return s!"[{e.displayKey}] {e.citation (status.getD r.defaultStatus)}"
  | none => return s!"No bibliography entry found for '{key}'"

/-- The section of a spec. -/
def lookUpSection (spec id : String) (status : Option String) (r : Resolver) :
    Except Failure Heading := do
  let status ← readStatus status
  ((Resolver.findSection spec id status).on r).1

/-- Carries out a command. Linking took the given number of milliseconds. -/
def run (dataHome : String) (elapsed : Nat) (command : Command) : Action Console Unit := do
  let root := (← get).projectRoot command
  match command with
  | .init _ => init dataHome root
  | .link document _ output =>
    reportLink elapsed output (← inspect (linkFile dataHome root document))
  | .lookup text kind spec status scope shortname _ =>
    let r ← inspect (resolver dataHome root { shortname := shortname.getD "" })
    printLink (← Action.ofExcept (lookUpLink (linkRequest text kind spec status scope) r))
  | .biblio key status obsolete _ =>
    let r ← inspect (resolver dataHome root {})
    print (← Action.ofExcept (citeKey key status obsolete r))
  | .heading spec id status _ =>
    let r ← inspect (resolver dataHome root {})
    let heading ← Action.ofExcept (lookUpSection spec id status r)
    print (Resolver.sectionText heading)
    print ("  " ++ heading.url)

end Console

end SpecLink
