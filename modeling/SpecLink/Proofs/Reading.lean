import SpecLink.FileTree
import SpecLink.Proofs.Anchor.Shards
import SpecLink.Proofs.Biblio.Refer
import SpecLink.Proofs.Biblio.Shards

/-!
# Failures of reading data

Data is fetched from a source and then parsed. Main statements: `failsWith_of_unreadable` for either
store and `failsWith_of_readHeadings`, by which nothing else can go wrong on the way.
-/
namespace SpecLink

/-- What reading the data of a source can fail with: a file is out of reach, or it is not in its
format. -/
inductive DataSource.FailsWith (source : DataSource) : Failure → Prop
  | fetch {path : String} {failure : Failure} (failed : source.fetch path = .error failure) :
    FailsWith source failure
  | parse (fault : ParseFault) (file : String) (line : Option Nat) :
    FailsWith source (.parse fault file line)

/-- Whatever a source fails with, it does not speak of links without a target. -/
def DataSource.Candid (source : DataSource) : Prop :=
  ∀ path kind text stage, source.fetch path ≠ .error (.notFound kind text stage)

theorem DataSource.candid_ofFiles (files : SortedMap String) : (ofFiles files).Candid :=
  fun _ _ _ _ => nofun

/-- A directory fails only by files that cannot be read. -/
theorem FileTree.fetch_error {tree : FileTree} {directory path : String} {failure : Failure}
    (failed : (tree.dataSource directory).fetch path = .error failure) : failure = .io := by
  simp only [dataSource, readText] at failed
  split at failed
  · split at failed
    · cases failed
    · exact (Except.error.inj failed).symm
  · cases failed

theorem FileTree.candid_dataSource (tree : FileTree) (directory : String) :
    (tree.dataSource directory).Candid :=
  fun _ _ _ _ failed => nomatch FileTree.fetch_error failed

theorem DataSource.Candid.not_failsWith {source : DataSource} (candid : source.Candid)
    {kind : LinkKind} {text : String} {stage : SearchStage} :
    ¬ source.FailsWith (.notFound kind text stage) := by
  intro fails
  cases fails with
  | fetch failed => exact candid _ kind text stage failed

theorem readDataFile_error {α : Type} {read : Json → Option α} {path contents : String}
    {failure : Failure} (failed : readDataFile read path contents = .error failure) :
    failure = .parse .dataFile path none := by
  rw [readDataFile] at failed
  split at failed
  · cases failed
  · exact (Except.error.inj failed).symm

variable {source : DataSource} {failure : Failure}

theorem AnchorStore.failsWith_of_unreadable (unreadable : Unreadable source failure) :
    source.FailsWith failure := by
  obtain ⟨key, failed⟩ := unreadable
  rw [readShard, bind_error_iff] at failed
  rcases failed with failed | ⟨file, -, failed⟩
  · exact .fetch failed
  cases file with
  | none => cases failed
  | some contents =>
    simp only [bind_error_iff] at failed
    rcases failed with failed | ⟨records, -, failed⟩
    · exact readDataFile_error failed ▸ .parse _ _ _
    · cases failed

theorem AnchorStore.failsWith_of_readHeadings {spec : String}
    (failed : readHeadings source spec = .error failure) : source.FailsWith failure := by
  rw [readHeadings, bind_error_iff] at failed
  rcases failed with failed | ⟨file, -, failed⟩
  · exact .fetch failed
  cases file with
  | none => cases failed
  | some contents =>
    simp only at failed
    split at failed
    · cases failed
    · rw [bind_error_iff] at failed
      rcases failed with failed | ⟨entries, -, failed⟩
      · exact readDataFile_error failed ▸ .parse _ _ _
      · cases failed

theorem BiblioStore.failsWith_of_unreadable (unreadable : Unreadable source failure) :
    source.FailsWith failure := by
  obtain ⟨key, failed⟩ := unreadable
  rw [readShard, bind_error_iff] at failed
  rcases failed with failed | ⟨file, -, failed⟩
  · exact .fetch failed
  cases file with
  | none => cases failed
  | some contents =>
    obtain ⟨fault, line, rfl⟩ := Refer.exists_line_of_parse failed
    exact .parse fault _ (some line)

end SpecLink
