import SpecLink.CommandLine

/-!
# The program

Reads the files that a command may need into a tree, carries the command out on the tree, and writes
back what changed.
-/
namespace SpecLink.Program

/-- The text of a file, or none if its bytes are no text. -/
def readNode (path : String) : IO FileNode := do
  return .file (String.fromUTF8? (← IO.FS.readBinFile path))

/-- The names in a directory; none if there is no such directory. -/
def namesIn? (path : String) : IO (Option (List String)) := do
  try
    let entries ← (← IO.FS.realPath path).readDir
    return some (entries.toList.map fun e => e.fileName)
  catch _ => return none

/-- Adds what is at an absolute path to the tree, if anything is. -/
def observe (tree : FileTree) (place : String) : IO FileTree := do
  match ← namesIn? place with
  | some _ => return tree.put place .directory
  | none => try return tree.put place (← readNode place) catch _ => return tree

/-- Adds what is at an absolute path, and all directories above it. -/
def observeAlong (tree : FileTree) (path : String) : IO FileTree := do
  let steps := (Text.splitAt '/' (Path.join tree.workDir path)).filter fun s => s != "" && s != "."
  let (tree, _) ← steps.foldlM (fun (tree, place) step => do
    let next := FileTree.follow place step
    return (← if next.isEmpty then pure tree else observe tree next, next)) (tree, "")
  return tree

/-- Adds the nodes directly inside a directory. -/
def observeNames (tree : FileTree) (place : String) : IO FileTree := do
  ((← namesIn? place).getD []).foldlM (fun tree name => observe tree (place ++ "/" ++ name)) tree

/-- Adds the files in a directory and in the directories directly inside it. -/
def observeInside (tree : FileTree) (path : String) : IO FileTree := do
  let tree ← observeAlong tree path
  match tree.resolve? path with
  | none => return tree
  | some place => do
    let inner ← observeNames tree place
    let names := (← namesIn? place).getD []
    names.foldlM (fun tree name => observeNames tree (place ++ "/" ++ name)) inner

/-- The files that a command names. -/
def filesOf : Command → List String
  | .link document _ output => document :: output.toList
  | _ => []

/-- The tree that a command may need. -/
def treeFor (dataHome : String) (command : Command) : IO FileTree := do
  let workDir := (← IO.currentDir).toString
  let start : FileTree := { workDir := if workDir == "/" then "" else workDir }
  let root := Console.projectRoot { tree := start } command
  let paths := start.workDir :: filesOf command ++
    [Project.configPath root, Project.draftPath root, Project.biblioPath root]
  let tree ← paths.foldlM observeAlong start
  match Project.loadConfig tree dataHome root with
  | .ok config => observeInside tree (config.dataPath root)
  | .error _ => return tree

/-- Writes a node to its place. -/
def writeNode (change : String × FileNode) : IO Unit := do
  match change with
  | (place, .directory) => IO.FS.createDirAll place
  | (place, .file text) => IO.FS.writeFile place (text.getD "")

/-- The user's directory of data. -/
def dataHome : IO String := do
  let home ← IO.getEnv "HOME"
  let fallback := match home with
    | some directory => Path.join directory ".local/share"
    | none => "."
  match ← IO.getEnv "XDG_DATA_HOME" with
  | some directory => return if Path.isAbsolute directory then directory else fallback
  | none => return fallback

/-- Carries out a command on a tree, and measures the time that linking takes. -/
def carryOut (dataHome : String) (command : Command) (tree : FileTree) :
    IO (Except Failure Unit × Console) := do
  match command with
  | .link document _ output =>
    let root := Console.projectRoot { tree } command
    let before ← IO.monoMsNow
    match Console.linkFile dataHome root document tree with
    | .error failure => return (.error failure, { tree })
    | .ok linked =>
      let after ← IO.monoMsNow
      return (Console.reportLink (after - before) output linked).on { tree }
  | _ => return (Console.run dataHome 0 command).on { tree }

/-- The commands and their arguments. -/
def usage : String := "\n".intercalate [
  "Commands:",
  "  init [PATH]",
  "  link DOCUMENT [-p PATH] [-o OUTPUT]",
  "  lookup TEXT [-t TYPE] [-s SPEC] [--status STATUS] [--for VALUE]...",
  "    [--shortname NAME] [-p PATH]",
  "  biblio KEY [--status STATUS] [--obsolete] [-p PATH]",
  "  heading SPEC ID [--status STATUS] [-p PATH]"]

end SpecLink.Program

open SpecLink in
/-- Exit codes: 0 for success, 1 for a failure, 2 for arguments that are not accepted. -/
def main (args : List String) : IO UInt32 := do
  match Command.read args with
  | .error .help => IO.println Program.usage; return 0
  | .error .malformed => IO.eprintln Program.usage; return 2
  | .ok command =>
    let home ← Program.dataHome
    let tree ← Program.treeFor home command
    let (outcome, console) ← Program.carryOut home command tree
    IO.print console.output
    (tree.changesTo console.tree).forM Program.writeNode
    match outcome with
    | .ok _ => return 0
    | .error failure => IO.eprintln ("Error: " ++ failure.message); return 1
