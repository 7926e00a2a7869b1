import SpecLink.Document
import SpecLink.FileTree
import SpecLink.Json.Writer

/-!
# Projects

A project is a directory with its configuration, which says where the data files are. It may have a
bibliography of its own.
-/
namespace SpecLink

structure Project where
  config : Config
  root : String
  source : DataSource

namespace Project

/-- The directory of a project's settings. -/
def settingsDir (root : String) : String := Path.join root ".bikeshed"

def configPath (root : String) : String := Path.join (settingsDir root) "config.json"

/-- The file that a configuration is written to before it takes its place. -/
def draftPath (root : String) : String := Path.join (settingsDir root) "config.tmp"

/-- The project has a configuration. -/
def isInitialized (tree : FileTree) (root : String) : Bool := tree.holds (configPath root)

/-- The configuration of a project, or the one that projects start with. -/
def loadConfig (tree : FileTree) (dataHome root : String) : Except Failure Config :=
  let path := configPath root
  if !tree.holds path then .ok (.initial dataHome)
  else
    match tree.readText path with
    | .error _ => .error (.config (.unreadable path))
    | .ok text =>
      match (Json.parse? text).bind Config.ofJson? with
      | some config => .ok config
      | none => .error (.config (.malformed path))

/-- Changes the tree, or fails for the given cause. -/
def change (fault : ConfigFault) (step : FileTree → Option FileTree) : Action FileTree Unit := do
  match step (← get) with
  | some tree => set tree
  | none => throw (.config fault)

/-- Makes a directory and all directories above it. Those made before a failure stay. -/
def makeDirectories (path : String) : Action FileTree Unit := do
  let (tree, complete) := (← get).makeDirectories path
  set tree
  if !complete then throw (.config (.noDirectory path))

/-- Writes a configuration: to a draft first, which then takes the place of the old one. -/
def saveConfig (root : String) (config : Config) : Action FileTree Unit := do
  let directory := settingsDir root
  let draft := draftPath root
  let target := configPath root
  makeDirectories directory
  change (.unwritable draft) fun tree => tree.writeText? draft config.toJson.writePretty
  change (.notRenamed draft target) fun tree => tree.moveFile? draft target

/-- The project over a configuration and the data files that it names. -/
def ofConfig (tree : FileTree) (root : String) (config : Config) : Project where
  config
  root
  source := tree.dataSource (config.dataPath root)

/-- Gives a directory the configuration that projects start with. -/
def init (dataHome root : String) : Action FileTree Project := do
  saveConfig root (.initial dataHome)
  return ofConfig (← get) root (.initial dataHome)

/-- Opens a project, whose data directory must exist. -/
def load (tree : FileTree) (dataHome root : String) : Except Failure Project := do
  let config ← loadConfig tree dataHome root
  if tree.isDirectory (config.dataPath root) then return ofConfig tree root config
  else throw (.missingData (.directory (config.dataPath root) (configPath root)))

/-- The file of a project's own bibliography. -/
def biblioPath (root : String) : String := Path.join root "biblio.json"

/-- Adds the project's own bibliography, if there is one. -/
def addOwnBiblio (tree : FileTree) (root : String) : Action BiblioStore Unit := do
  if tree.isFile (biblioPath root) then
    let text ← Action.ofExcept (tree.readText (biblioPath root))
    let _ ← BiblioStore.addSpecref text (biblioPath root) BiblioOrder.project

/-- The resolver for a document of the project. -/
def resolver (p : Project) (tree : FileTree) (metadata : Metadata) : Except Failure Resolver := do
  let r ← Resolver.load p.source p.config metadata
  let (added, biblio) := (addOwnBiblio tree p.root).on r.biblio
  -- An unreadable bibliography of the project's own ends the work on the document.
  added
  return { r with biblio }

/-- Links a document of the project. -/
def link (p : Project) (tree : FileTree) (document : Document) : Except Failure LinkedDocument := do
  (← p.resolver tree document.metadata).linkDocument document

end Project

end SpecLink
