import PalletTypes.Proofs.Aggregation.Sources
import PalletTypes.Proofs.Path.Names
import PalletTypes.Proofs.Path.Templates
import PalletTypes.Proofs.TypesFile.Staging

/-!
# The longest paths of a run

The system takes no path beyond a number of bytes.  The types files of the
pallets have the longest paths of a run: where one of them can be read, the
output and its directory are within the limit, and for an absolute base
directory the temporary file is so, too.
-/

namespace PalletTypes

namespace Path

theorem namesSize_dropLast_le (names : List Text) :
    namesSize names.dropLast ≤ namesSize names := by
  rcases List.eq_nil_or_concat names with rfl | ⟨front, name, rfl⟩
  · exact Nat.le_refl _
  · rw [List.concat_eq_append, List.dropLast_concat, namesSize_append]
    exact Nat.le_add_right _ _

/-- Cancelling makes nothing longer. -/
theorem namesSize_cancelOnto_le (done names : List Text) :
    namesSize (cancelOnto done names) ≤ namesSize done + namesSize names := by
  induction names generalizing done with
  | nil => exact Nat.le_refl _
  | cons name names ih =>
      rw [cancelOnto, namesSize]
      split
      · have shorter := namesSize_dropLast_le done
        have rest := ih done.dropLast
        omega
      · have rest := ih (done ++ [name])
        rw [namesSize_append, namesSize, namesSize] at rest
        omega

/-- A path is not longer than another one with the same root and names of at
least the same size. -/
theorem isTooLong_of_le {first second : Path} (root : first.root = second.root)
    (named : second.names ≠ [])
    (size : namesSize first.names ≤ namesSize second.names)
    (namedFirst : first.names ≠ [])
    (short : second.isTooLong = false) : first.isTooLong = false := by
  have sizeFirst := byteSize_text namedFirst
  have sizeSecond := byteSize_text named
  rw [root] at sizeFirst
  simp only [isTooLong, decide_eq_false_iff_not, Nat.not_le] at short ⊢
  omega

end Path

namespace Aggregation

variable {settings : Settings} {pallet : Text}

theorem namesSize_palletPath (settings : Settings) (pallet : Text) :
    Path.namesSize (settings.palletPath pallet).names =
      Path.namesSize settings.baseDir.names + 22 +
        Path.namesSize (Path.ofText pallet).names := by
  have upwardSize : upward.byteSize = 2 := by decide
  have palletsSize : Settings.palletsName.byteSize = 7 := by decide
  have fileSize : Settings.fileName.byteSize = 10 := by decide
  simp only [Settings.names_palletPath, Path.namesSize_append, Path.namesSize,
    upwardSize, palletsSize, fileSize]
  omega

theorem isTooLong_outputPath
    (short : (settings.palletPath pallet).isTooLong = false) :
    settings.outputPath.isTooLong = false := by
  have size : Path.namesSize settings.outputPath.names =
      Path.namesSize settings.baseDir.names + 14 := by
    have template : Path.namesSize [upward, Settings.fileName] = 14 := by decide
    rw [Settings.names_outputPath, Path.namesSize_append, template]
  refine Path.isTooLong_of_le ?_ ?_ ?_ ?_ short
  · rw [Settings.root_outputPath, Settings.root_palletPath]
  · simp [Settings.names_palletPath]
  · rw [size, namesSize_palletPath]
    omega
  · simp [Settings.names_outputPath]

theorem isTooLong_parent_outputPath
    (short : (settings.palletPath pallet).isTooLong = false) :
    settings.outputPath.parent.isTooLong = false := by
  have size : Path.namesSize settings.outputPath.parent.names =
      Path.namesSize settings.baseDir.names + 3 := by
    have template : Path.namesSize [upward] = 3 := by decide
    rw [Settings.names_parent_outputPath, Path.namesSize_append, template]
  refine Path.isTooLong_of_le ?_ ?_ ?_ ?_ short
  · exact (Settings.root_outputPath settings).trans
      (Settings.root_palletPath settings pallet).symm
  · simp [Settings.names_palletPath]
  · rw [size, namesSize_palletPath]
    omega
  · simp [Settings.names_parent_outputPath]

/-- The temporary file beside the output of an absolute base directory is
within the limit. -/
theorem isTooLong_temporary {place : Place} {directory : Path}
    {temporary : Text} (rooted : settings.baseDir.root ≠ .relative)
    (short : (settings.palletPath pallet).isTooLong = false)
    (isTemporary : TypesFile.IsTemporaryName temporary)
    (staging : TypesFile.stagingDirectory? place settings.outputPath =
      some directory) :
    (directory.join (.ofText temporary)).isTooLong = false := by
  have rootedOutput : settings.outputPath.root ≠ .relative := by
    rw [Settings.root_outputPath]
    exact rooted
  obtain ⟨relative, names⟩ := Path.ofText_of_isName isTemporary.isName
  have inDirectory : Path.namesSize directory.names ≤
      Path.namesSize settings.baseDir.names + 3 := by
    have template : Path.namesSize [upward] = 3 := by decide
    have parts : settings.outputPath.names.dropLast =
        settings.baseDir.names ++ [upward] :=
      Settings.names_parent_outputPath settings
    have cancelled := Path.namesSize_cancelOnto_le []
      (settings.baseDir.names ++ [upward])
    rw [Path.namesSize_append, template] at cancelled
    rw [(TypesFile.staging_names staging).2, TypesFile.startNames,
      if_neg rootedOutput, List.nil_append, parts]
    simpa [Path.cancel, Path.namesSize] using cancelled
  refine Path.isTooLong_of_le ?_ ?_ ?_ ?_ short
  · rw [Path.root_join relative,
      TypesFile.root_of_staging rootedOutput staging,
      Settings.root_outputPath, Settings.root_palletPath]
  · simp [Settings.names_palletPath]
  · rw [Path.names_join relative, names, Path.namesSize_append,
      namesSize_palletPath]
    simp only [Path.namesSize, isTemporary.byteSize_eq]
    omega
  · simp [Path.names_join relative, names]

end Aggregation

end PalletTypes
