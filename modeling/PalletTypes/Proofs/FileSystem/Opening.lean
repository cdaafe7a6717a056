import PalletTypes.FileSystem.Tree
import PalletTypes.Proofs.FileSystem.Landing

/-!
# Opening files and making directories

A file that has been opened stands where it was found or made.  Where a path
can be handed to the system, opening it or making directories along it fails
only because the system refuses.
-/

namespace PalletTypes

/-- A path without a defect is turned down by the system only. -/
theorem Path.refused_of_refusal? {path : Path} {error : AccessError}
    (fits : path.defect? = none) (turnedDown : path.refusal? = some error) :
    ∃ cause, error = .refused cause := by
  cases error with
  | refused cause => exact ⟨cause, rfl⟩
  | defective defect =>
      have defective := Path.refusal?_eq_defective_iff.mp turnedDown
      exact nomatch fits.symm.trans defective

namespace FileSystem

/-- An opened file stands under the last name of the path, in the directory
that the parent leads to. -/
theorem stands_of_openFile {files after : FileSystem} {place : Place}
    {path : Path} {location : Location}
    (opened : files.openFile place path = .ok (location, after)) :
    path.refusal? = none ∧
      ∃ directory name, after.enter place path.parent = .ok directory ∧
        path.names.getLast? = some name ∧ directory.Admits name ∧
        directory.child name = location ∧
        ∃ mode content,
          after.node? location = some (.file mode content) := by
  unfold openFile at opened
  split at opened
  · cases opened
  case h_2 accepted =>
    refine ⟨accepted, ?_⟩
    split at opened
    case h_1 => cases opened
    case h_2 found mode content walked =>
      cases opened
      obtain ⟨directory, name, entered, last, admitted, child, standing⟩ :=
        walk_eq_file_iff.mp walked
      exact ⟨directory, name, entered, last, admitted, child, mode, content,
        standing⟩
    case h_3 missing =>
      split at opened
      · cases opened
      case h_2 directory entered =>
        split at opened
        case h_1 => cases opened
        case h_2 vacant made =>
          cases opened
          obtain ⟨admitted, child, free⟩ := vacancy_eq_ok_iff.mp made
          have noDirectory : files.node? location ≠ some .directory := by
            simp [free]
          have enteredAfter := (sameDirectories_put_file noDirectory
            publicMode ByteArray.empty).enter entered
          -- A path without names leads to a directory, so it is not missing.
          have named : path.names ≠ [] := by
            intro nameless
            simp [walk, nameless, follow] at missing
          have last : path.names.getLast? =
              some (path.names.getLastD []) := by
            rw [List.getLastD_eq_getLast?, List.getLast?_eq_some_getLast named]
            rfl
          exact ⟨directory, _, enteredAfter, last, admitted, child, _, _, by
            rw [node?_put (ne_nil_of_free free), if_pos rfl]⟩
    case h_4 => cases opened

/-- A file is made where nothing stands. -/
theorem openFile_of_free {files : FileSystem} {place directory : Place}
    {path : Path} {name : Text} (accepted : path.refusal? = none)
    (entered : files.enter place path.parent = .ok directory)
    (last : path.names.getLast? = some name)
    (admitted : directory.Admits name)
    (free : files.node? (directory.child name) = none) :
    files.openFile place path =
      .ok (directory.child name, files.put (directory.child name)
        (.file publicMode ByteArray.empty)) := by
  have missing : files.walk place path = .error .missing := by
    rw [walk_of_last last, entered]
    exact (find_of_admits admitted files).trans (by rw [free]; rfl)
  have vacant : files.vacancy directory (path.names.getLastD []) =
      .ok (directory.child name) := by
    rw [List.getLastD_eq_getLast?, last]
    exact vacancy_eq_ok_iff.mpr ⟨admitted, rfl, free⟩
  simp only [openFile, accepted, missing, entered, vacant]

/-- A path that can be handed to the system is only refused by it. -/
theorem refused_of_openFile {files : FileSystem} {place : Place} {path : Path}
    {error : AccessError} (fits : path.defect? = none)
    (failed : files.openFile place path = .error error) :
    ∃ cause, error = .refused cause := by
  unfold openFile at failed
  split at failed
  case h_1 turnedDown =>
    cases failed
    exact Path.refused_of_refusal? fits turnedDown
  case h_2 =>
    split at failed
    case h_1 => exact ⟨_, (Except.error.inj failed).symm⟩
    case h_2 => cases failed
    case h_3 missing =>
      split at failed
      case h_1 => exact ⟨_, (Except.error.inj failed).symm⟩
      case h_2 directory entered =>
        split at failed
        case h_1 => exact ⟨_, (Except.error.inj failed).symm⟩
        case h_2 => cases failed
    case h_4 => exact ⟨_, (Except.error.inj failed).symm⟩

theorem refused_of_makeDirectory {files : FileSystem} {place : Place}
    {path : Path} {error : AccessError} (fits : path.defect? = none)
    (failed : files.makeDirectory place path = .error error) :
    ∃ cause, error = .refused cause := by
  unfold makeDirectory at failed
  split at failed
  case h_1 turnedDown =>
    cases failed
    exact Path.refused_of_refusal? fits turnedDown
  case h_2 =>
    split at failed
    case h_1 => exact ⟨_, (Except.error.inj failed).symm⟩
    case h_2 => exact ⟨_, (Except.error.inj failed).symm⟩
    case h_3 directory name entered named =>
      split at failed
      case h_1 => exact ⟨_, (Except.error.inj failed).symm⟩
      case h_2 => cases failed

theorem refused_of_ensureDirectory {files : FileSystem} {place : Place}
    {path : Path} {failure : Failure} (fits : path.defect? = none)
    (failed : (files.ensureDirectory place path).2 = .error failure) :
    ∃ cause, failure = .refused cause path := by
  unfold ensureDirectory at failed
  split at failed
  case h_1 => cases failed
  case h_2 defect made =>
    obtain ⟨cause, refused⟩ := refused_of_makeDirectory fits made
    cases refused
  case h_3 cause made =>
    split at failed <;> cases failed
    · exact ⟨_, rfl⟩
    · exact ⟨_, rfl⟩

/-- Directories that cannot be made are refused by the system, if the path can
be handed to it. -/
theorem refused_of_makeDirectories {files : FileSystem} {place : Place}
    {path : Path} {failure : Failure} (fits : path.defect? = none)
    (failed : (files.makeDirectories place path).2 = .error failure) :
    ∃ cause other, failure = .refused cause other := by
  fun_induction makeDirectories files place path with
  | case1 path unchanged other missing nameless =>
      cases failed
      exact ⟨_, _, rfl⟩
  | case2 path unchanged other missing named above made ih =>
      obtain ⟨cause, refused⟩ := refused_of_ensureDirectory fits failed
      exact ⟨cause, path, refused⟩
  | case3 path unchanged other missing named above cause made ih =>
      have fitsAbove : path.parent.defect? = none := by
        rw [Path.defect?_eq_none_iff] at fits ⊢
        exact fun name member => fits name (List.dropLast_subset _ member)
      exact ih fitsAbove (by rw [made]; exact failed)
  | case4 path other =>
      obtain ⟨cause, refused⟩ := refused_of_ensureDirectory fits failed
      exact ⟨cause, path, refused⟩

end FileSystem

end PalletTypes
