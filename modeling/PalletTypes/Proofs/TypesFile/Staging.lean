import PalletTypes.Proofs.FileSystem.Cancelling
import PalletTypes.Proofs.FileSystem.Landing
import PalletTypes.Proofs.Path.Names
import PalletTypes.Proofs.TypesFile.Temporary
import PalletTypes.TypesFile.Write

/-!
# The staging directory

The directory of the temporary file is the parent of the target as an absolute
path without `..`.  All its names come from the working directory or from the
target.  If the parent can be entered, then the staging directory is the same
directory, and the temporary file can be created there.
-/

namespace PalletTypes

namespace TypesFile

/-- The names that a path with this root goes on from. -/
def startNames (place : Place) (root : PathRoot) : List Text :=
  if root = .relative then place.location.filter fun name => decide (IsName name)
  else []

/-- The staging directory follows the names of the working directory and of
the parent of the target, and cancels. -/
theorem staging_names {place : Place} {path directory : Path}
    (staging : stagingDirectory? place path = some directory) :
    directory.root ≠ .relative ∧
      directory.names =
        Path.cancel (startNames place path.root ++ path.names.dropLast) := by
  unfold stagingDirectory? at staging
  split at staging
  case isTrue relative =>
    have goesOn : path.parent.root = .relative := relative
    obtain ⟨base, here, rfl⟩ := Option.map_eq_some_iff.mp staging
    unfold Place.path? at here
    split at here
    case isTrue =>
      cases here
      simp only [Path.absolute, Path.root_join goesOn, Path.names_join goesOn]
      exact ⟨by simp [Path.ofNames], by simp [startNames, relative]; rfl⟩
    case isFalse => cases here
  case isFalse rooted =>
    have standsAlone : path.parent.root ≠ .relative := rooted
    cases staging
    simp only [Path.absolute, Path.join_of_absolute standsAlone]
    exact ⟨rooted, by simp [startNames, rooted]; rfl⟩

theorem root_of_staging {place : Place} {path directory : Path}
    (rooted : path.root ≠ .relative)
    (staging : stagingDirectory? place path = some directory) :
    directory.root = path.root := by
  have standsAlone : path.parent.root ≠ .relative := rooted
  rw [stagingDirectory?, if_neg rooted] at staging
  cases staging
  simp only [Path.absolute, Path.join_of_absolute standsAlone]
  rfl

theorem mem_names_of_staging {place : Place} {path directory : Path}
    (staging : stagingDirectory? place path = some directory) {name : Text}
    (member : name ∈ directory.names) :
    name ∈ startNames place path.root ∨ name ∈ path.names := by
  rw [(staging_names staging).2] at member
  rcases List.mem_append.mp (Path.mem_of_mem_cancel member) with
    inStart | inPath
  · exact Or.inl inStart
  · exact Or.inr (List.dropLast_subset _ inPath)

theorem startNames_subset (place : Place) (root : PathRoot) :
    startNames place root ⊆ place.location := by
  unfold startNames
  split
  · exact fun name member => (List.mem_filter.mp member).1
  · exact List.nil_subset _

section

variable {files : FileSystem} {place : Place} {path : Path}

/-- The working directory exists, if the path needs it. -/
def HasStart (files : FileSystem) (place : Place) (path : Path) : Prop :=
  path.root = .relative → place.Exists files

theorem startNames_of_exists (here : place.Exists files) :
    startNames place .relative = place.location := by
  have kept : ∀ name ∈ place.location, decide (IsName name) = true :=
    fun name member => decide_eq_true (here.isName name member)
  rw [startNames, if_pos rfl, List.filter_eq_self.mpr kept]

/-- The names that a path starts from lead to where its walk starts. -/
theorem leadsDown_startNames (start : HasStart files place path) :
    files.LeadsDown (startNames place path.root)
      (FileSystem.origin place path.root) := by
  by_cases relative : path.root = .relative
  · have here := start relative
    rw [relative, startNames_of_exists here, FileSystem.origin, if_pos rfl]
    exact here.leads
  · rw [startNames, if_neg relative, FileSystem.origin, if_neg relative]
    exact .nil files

theorem exists_staging (start : HasStart files place path) :
    ∃ directory, stagingDirectory? place path = some directory := by
  unfold stagingDirectory?
  split
  case isTrue relative =>
    have present := (start relative).leads.present
    exact ⟨_, by rw [Place.path?, if_pos present, Option.map_some]⟩
  case isFalse => exact ⟨_, rfl⟩

/-- The staging directory is the directory that the parent leads to. -/
theorem leadsDown_staging {directory : Path} {parent : Place}
    (start : HasStart files place path)
    (staging : stagingDirectory? place path = some directory)
    (entered : files.enter place path.parent = .ok parent) :
    files.LeadsDown directory.names parent := by
  have begins := leadsDown_startNames start
  rw [(staging_names staging).2, Path.cancel,
    Path.cancelOnto_of_downward begins.downward, List.nil_append]
  exact begins.cancelOnto (FileSystem.enter_eq_ok_iff.mp entered)

theorem enter_staging {directory : Path} {parent : Place}
    (start : HasStart files place path)
    (staging : stagingDirectory? place path = some directory)
    (entered : files.enter place path.parent = .ok parent) :
    files.enter .top directory = .ok parent := by
  rw [FileSystem.enter_eq_ok_iff, FileSystem.walk, FileSystem.origin,
    if_neg (staging_names staging).1]
  exact (leadsDown_staging start staging entered).arrival

/-- The temporary file has a path that the system takes, if the target has
one and the working directory exists where it is needed. -/
theorem refusal?_staging {directory : Path} {temporary : Text}
    (start : HasStart files place path)
    (staging : stagingDirectory? place path = some directory)
    (fits : path.defect? = none) (isTemporary : IsTemporaryName temporary)
    (short : (directory.join (.ofText temporary)).isTooLong = false) :
    (directory.join (.ofText temporary)).refusal? = none := by
  obtain ⟨relative, names⟩ := Path.ofText_of_isName isTemporary.isName
  refine Path.refusal?_eq_none_iff.mpr
    ⟨(Path.defect?_join_eq_none_iff relative).mpr ⟨?_, ?_⟩, short⟩
  · rw [Path.defect?_eq_none_iff] at fits ⊢
    intro name member
    rcases mem_names_of_staging staging member with inStart | inPath
    · by_cases goesOn : path.root = .relative
      · exact (start goesOn).nameable name (startNames_subset _ _ inStart)
      · rw [startNames, if_neg goesOn] at inStart
        exact nomatch inStart
    · exact fits name inPath
  · rw [Path.defect?_eq_none_iff, names]
    simpa using isTemporary.not_isUnfit

/-- The temporary file can be created wherever the parent of the target can be
entered. -/
theorem create_staging {directory : Path} {parent : Place} {temporary : Text}
    (start : HasStart files place path)
    (staging : stagingDirectory? place path = some directory)
    (entered : files.enter place path.parent = .ok parent)
    (fits : path.defect? = none) (pick : MayPick files place path temporary)
    (short : (directory.join (.ofText temporary)).isTooLong = false) :
    ∃ location created,
      files.create .top directory temporary = .ok (location, created) :=
  create_of_entered
    (refusal?_staging start staging fits pick.isTemporary short)
    (enter_staging start staging entered)
    (leadsDown_staging start staging entered).present pick.isTemporary
    (pick.free directory staging)

end

end TypesFile

end PalletTypes
