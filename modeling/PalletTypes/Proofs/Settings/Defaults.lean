import PalletTypes.Proofs.Aggregation.Readiness
import PalletTypes.Settings.Assignment
import PalletTypes.Settings.Validation

/-!
# The default settings

Without any request the base directory is the working directory.  In a working
directory that exists these settings are sound, and validation finds nothing
wrong with them: the directory of the output is the one above.  Only if the
path of that directory has too many bytes, the file system refuses to say so.
-/

namespace PalletTypes.Settings

/-- The settings that are made without any request. -/
def defaults (place : Place) : Settings :=
  SettingsRequest.initial {} (.ofNames .absolute place.location)

section

variable {files : FileSystem} {place : Place}

theorem names_baseDir_defaults (here : place.Exists files) :
    (defaults place).baseDir.names = place.location := by
  apply List.filter_eq_self.mpr
  exact fun name member => decide_eq_true (here.isName name member)

theorem isSound_defaults (here : place.Exists files) :
    (defaults place).IsSound where
  rooted := by simp [defaults, SettingsRequest.initial, Path.ofNames]
  fits := by
    rw [Path.defect?_eq_none_iff, names_baseDir_defaults here]
    exact here.nameable
  palletsFit := by
    have fits : ∀ pallet ∈ defaultPallets,
        (Path.ofText pallet).defect? = none := by decide
    exact fits
  nonempty := by
    have some_pallet : defaultPallets ≠ [] := by decide
    exact some_pallet
  runtime := by
    have storable : defaultRuntimeTypes.isStorable = true := by decide
    exact storable
  custom := by
    have storable : defaultCustomTypes.isStorable = true := by decide
    exact storable

/-- The directory of the output is the one above the working directory. -/
theorem enter_parent_defaults (here : place.Exists files) :
    files.enter place (defaults place).outputPath.parent =
      .ok place.parent := by
  have rooted : (defaults place).outputPath.parent.root ≠ .relative :=
    fun relative => (isSound_defaults here).rooted
      ((root_outputPath (defaults place)).symm.trans relative)
  rw [FileSystem.enter_eq_ok_iff, FileSystem.walk, names_parent_outputPath,
    names_baseDir_defaults here, FileSystem.origin, if_neg rooted]
  exact FileSystem.follow_concat_iff.mpr
    ⟨place, here.leads.arrival, FileSystem.find_upward files place⟩

theorem defect?_parent_defaults (here : place.Exists files) :
    (defaults place).outputPath.parent.defect? = none := by
  have fits := defect?_outputPath_eq_none_iff.mpr (isSound_defaults here).fits
  rw [Path.defect?_eq_none_iff] at fits ⊢
  exact fun name member => fits name (List.dropLast_subset _ member)

theorem isDirectory_parent_defaults (here : place.Exists files) :
    files.isDirectory place (defaults place).outputPath.parent =
      if (defaults place).outputPath.parent.isTooLong then
        .error .nameTooLong
      else .ok true := by
  have entered := FileSystem.enter_eq_ok_iff.mp (enter_parent_defaults here)
  have fits := defect?_parent_defaults here
  unfold FileSystem.isDirectory FileSystem.probe Path.refusal?
  by_cases long : (defaults place).outputPath.parent.isTooLong <;>
    simp [fits, long, entered]

/-- Validation finds nothing wrong with the default settings, unless the file
system refuses to answer. -/
theorem validate_defaults (here : place.Exists files) :
    (defaults place).validate files place =
      if (defaults place).outputPath.parent.isTooLong then
        .error (.refused .nameTooLong (defaults place).outputPath.parent)
      else .ok { isValid := true, errors := [], warnings := [] } := by
  have noErrors : Validation.palletErrors (defaults place).pallets = [] := by
    have fine : Validation.palletErrors defaultPallets = [] := by decide
    exact fine
  have noRepetitions :
      Validation.repetitions [] (defaults place).pallets = [] := by
    have fine : Validation.repetitions [] defaultPallets = [] := by decide
    exact fine
  simp only [validate, isDirectory_parent_defaults here, noErrors,
    noRepetitions]
  by_cases long : (defaults place).outputPath.parent.isTooLong <;> simp [long]

end

end PalletTypes.Settings
