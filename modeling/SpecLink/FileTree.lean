import SpecLink.DataSource
import SpecLink.Path

/-!
# Trees of files

Directories and files as a program sees them from its working directory. Every node is held under
its absolute path without dots and without a slash at its end; the root is the empty path. Paths
that programs use are resolved step by step, and each step but the last must be a directory.
-/
namespace SpecLink

inductive FileNode where
  | directory
  /-- A file with its text, or with none if its bytes are no text. -/
  | file (text : Option String)
  deriving DecidableEq, Repr

structure FileTree where
  nodes : SortedMap FileNode := ∅
  /-- The absolute path of the working directory. -/
  workDir : String := ""

namespace FileTree

/-- The node under an absolute path. The root is always there. -/
def nodeAt? (tree : FileTree) (place : String) : Option FileNode :=
  if place.isEmpty then some .directory else tree.nodes.get? place

/-- One step from a directory. -/
def follow (place step : String) : String :=
  if step == "" || step == "." then place
  else if step == ".." then Path.parent place
  else place ++ "/" ++ step

/-- Follows steps, each from an existing directory. -/
def walk? (tree : FileTree) (place : String) : List String → Option String
  | [] => some place
  | step :: rest =>
    if Path.isName step && tree.nodeAt? place == some .directory then
      tree.walk? (follow place step) rest
    else none

/-- The place that a path leads to. All but its last step must exist. -/
def resolve? (tree : FileTree) (path : String) : Option String :=
  if !Path.isUsable path then none
  else tree.walk? "" (Text.splitAt '/' (Path.join tree.workDir path))

/-- The node that a path leads to. -/
def node? (tree : FileTree) (path : String) : Option FileNode := do
  tree.nodeAt? (← tree.resolve? path)

def holds (tree : FileTree) (path : String) : Bool := (tree.node? path).isSome

def isDirectory (tree : FileTree) (path : String) : Bool := tree.node? path == some .directory

def isFile (tree : FileTree) (path : String) : Bool :=
  match tree.node? path with
  | some (.file _) => true
  | _ => false

/-- The text of the file that a path leads to. -/
def readText (tree : FileTree) (path : String) : Except Failure String :=
  match tree.node? path with
  | some (.file (some text)) => .ok text
  | _ => .error .io

/-- The names of the files directly inside a directory, ascending. -/
def listFiles (tree : FileTree) (path : String) : List String :=
  match tree.resolve? path with
  | none => []
  | some place =>
    if tree.nodeAt? place != some .directory then []
    else tree.nodes.entries.filterMap fun e =>
      match Text.stripStart? (place ++ "/") e.1, e.2 with
      | some name, .file _ => if name.toList.contains '/' then none else some name
      | _, _ => none

def put (tree : FileTree) (place : String) (node : FileNode) : FileTree :=
  { tree with nodes := tree.nodes.insert place node }

/-- Follows steps and makes the directories that are missing, up to a step that has a file in its
way. Answers with the tree and whether all steps were followed. -/
def makeSteps (tree : FileTree) (place : String) : List String → FileTree × Bool
  | [] => (tree, true)
  | step :: rest =>
    let next := follow place step
    match tree.nodeAt? next with
    | some .directory => tree.makeSteps next rest
    -- What was made before this step stays.
    | some (.file _) => (tree, false)
    | none =>
      if Path.isName step then (tree.put next .directory).makeSteps next rest else (tree, false)

/-- The tree with a directory and all directories above it, as far as they can be made. -/
def makeDirectories (tree : FileTree) (path : String) : FileTree × Bool :=
  if Path.isUsable path then tree.makeSteps "" (Text.splitAt '/' (Path.join tree.workDir path))
  else (tree, false)

/-- The tree after a text is written to a file. Its directory must exist. -/
def writeText? (tree : FileTree) (path text : String) : Option FileTree := do
  let place ← tree.resolve? path
  match tree.nodeAt? place with
  | some .directory => none
  | _ => return tree.put place (.file (some text))

/-- The tree after a file took the place of another file or a free place. -/
def moveFile? (tree : FileTree) (source target : String) : Option FileTree := do
  let start ← tree.resolve? source
  let goal ← tree.resolve? target
  match tree.nodeAt? start, tree.nodeAt? goal with
  | some (.file text), some (.file _) | some (.file text), none =>
    return { tree with nodes := (tree.nodes.erase start).insert goal (.file text) }
  | _, _ => none

/-- The nodes that a tree has and another has not, or has otherwise, outer ones first. -/
def changesTo (old new : FileTree) : List (String × FileNode) :=
  new.nodes.entries.filter fun e => old.nodes.get? e.1 != some e.2

/-- The source of the data files inside a directory. -/
def dataSource (tree : FileTree) (directory : String) : DataSource where
  name := directory
  fetch path :=
    let file := Path.join directory path
    if tree.isFile file then (tree.readText file).map some else .ok none
  list path := tree.listFiles (Path.join directory path)

end FileTree

end SpecLink
