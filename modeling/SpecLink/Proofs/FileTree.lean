import SpecLink.FileTree
import SpecLink.Proofs.Sorted

/-!
# Files written and moved

Writing or moving a file leaves the directories of a tree as they are, so every path still leads to
the same place. Main statements: `readText_of_writeText?` and `readText_of_moveFile?`.
-/
namespace SpecLink.FileTree

variable {tree after : FileTree} {path source target text place : String} {node : FileNode}

/-- The directories of two trees, and where paths start, are the same. -/
structure SameDirectories (first second : FileTree) : Prop where
  workDir : first.workDir = second.workDir
  directory : ∀ place,
    first.nodeAt? place = some .directory ↔ second.nodeAt? place = some .directory

/-- Where a path leads to depends on directories alone. -/
theorem SameDirectories.resolve? {first second : FileTree} (same : SameDirectories first second)
    (path : String) : first.resolve? path = second.resolve? path := by
  have walked (place : String) (steps : List String) :
      first.walk? place steps = second.walk? place steps := by
    induction steps generalizing place with
    | nil => rfl
    | cons step rest ih =>
      have directory : (first.nodeAt? place == some .directory) =
          (second.nodeAt? place == some .directory) := by
        rw [Bool.eq_iff_iff, beq_iff_eq, beq_iff_eq]
        exact same.directory place
      rw [walk?, walk?, directory, ih]
  rw [FileTree.resolve?, FileTree.resolve?, same.workDir, walked]

/-- The root is a directory, so no other node stands there. -/
theorem isEmpty_of_not_directory (free : tree.nodeAt? place ≠ some .directory) :
    place.isEmpty = false := by
  rw [Bool.eq_false_iff]
  intro root
  exact free (if_pos root)

theorem nodeAt?_put (below : place.isEmpty = false) (other : String) :
    (tree.put place node).nodeAt? other =
      if other = place then some node else tree.nodeAt? other := by
  by_cases here : other = place
  · subst here
    simp [nodeAt?, put, below]
  · simp [nodeAt?, put, SortedMap.get?_insert, here]

theorem sameDirectories_put {text : Option String}
    (free : tree.nodeAt? place ≠ some .directory) :
    SameDirectories (tree.put place (.file text)) tree := by
  refine ⟨rfl, fun other => ?_⟩
  rw [nodeAt?_put (isEmpty_of_not_directory free)]
  split
  next here => simpa [here] using free
  next => rfl

theorem sameDirectories_erase {text : Option String}
    (held : tree.nodeAt? place = some (.file text)) :
    SameDirectories { tree with nodes := tree.nodes.erase place } tree := by
  refine ⟨rfl, fun other => ?_⟩
  by_cases here : other = place
  · subst here
    have notDirectory : tree.nodeAt? other ≠ some .directory := by simp [held]
    have gone : nodeAt? { tree with nodes := tree.nodes.erase other } other = none := by
      simp [nodeAt?, isEmpty_of_not_directory notDirectory, SortedMap.get?_erase]
    simp [gone, held]
  · simp [nodeAt?, SortedMap.get?_erase, here]

/-- A file put in a free place is found there by the paths that led to the place. -/
theorem node?_put {text : Option String} (resolved : tree.resolve? path = some place)
    (free : tree.nodeAt? place ≠ some .directory) :
    (tree.put place (.file text)).node? path = some (.file text) := by
  rw [node?, (sameDirectories_put free).resolve?, resolved]
  exact (nodeAt?_put (isEmpty_of_not_directory free) place).trans (if_pos rfl)

/-- A path whose file can be read leads to something. -/
theorem holds_of_readText (read : tree.readText path = .ok text) : tree.holds path = true := by
  rw [readText] at read
  split at read
  next found => rw [holds, found]; rfl
  next => cases read

/-- A text that was written to a file is read from it. -/
theorem readText_of_writeText? (written : tree.writeText? path text = some after) :
    after.readText path = .ok text := by
  obtain ⟨place, resolved, stored⟩ := Option.bind_eq_some_iff.1 written
  split at stored
  next => cases stored
  next free =>
    obtain rfl := Option.some.inj stored
    rw [readText, node?_put resolved free]

/-- A file that was moved is read from its new place. -/
theorem readText_of_moveFile? (moved : tree.moveFile? source target = some after) :
    after.readText target = tree.readText source := by
  obtain ⟨start, fromStart, moved⟩ := Option.bind_eq_some_iff.1 moved
  obtain ⟨goal, toGoal, moved⟩ := Option.bind_eq_some_iff.1 moved
  have settled {text : Option String} (held : tree.nodeAt? start = some (.file text))
      (free : tree.nodeAt? goal ≠ some .directory)
      (stored : { tree with nodes := (tree.nodes.erase start).insert goal (.file text) } = after) :
      after.readText target = tree.readText source := by
    have same := sameDirectories_erase held
    have arrived : after.node? target = some (.file text) := by
      have put : ({ tree with nodes := tree.nodes.erase start } : FileTree).put goal (.file text) =
        after := stored
      rw [← put]
      exact node?_put ((same.resolve? target).trans toGoal) (mt (same.directory goal).1 free)
    have started : tree.node? source = some (.file text) := by rw [node?, fromStart]; exact held
    rw [readText, readText, arrived, started]
  split at moved
  next held replaced => exact settled held (by simp [replaced]) (Option.some.inj moved)
  next held vacant => exact settled held (by simp [vacant]) (Option.some.inj moved)
  next => cases moved

end SpecLink.FileTree
