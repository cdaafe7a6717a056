import PalletTypes.Proofs.Path.Defects

/-!
# The names on the paths of a run

A text with slashes spells the names between the slashes.  So the types file
of a pallet and the merged types file both begin with the names of the base
directory and one `..`, whatever the pallet is called.
-/

namespace PalletTypes

namespace Path

theorem segments_ne_nil (text : Text) : segments text ≠ [] := by
  cases text with
  | nil => simp [segments]
  | cons point rest =>
      unfold segments
      split
      · simp
      · split <;> simp

/-- A slash ends a segment and begins the next. -/
theorem segments_append_slash (first second : Text) :
    segments (first ++ slash :: second) =
      segments first ++ segments second := by
  induction first with
  | nil => simp [segments]
  | cons point rest ih =>
      rw [List.cons_append, segments, segments]
      by_cases isSlash : point = slash
      · simp [isSlash, ih]
      · rw [if_neg isSlash, if_neg isSlash, ih]
        cases inRest : segments rest with
        | nil => exact absurd inRest (segments_ne_nil rest)
        | cons segment others => rfl

theorem names_ofText_append_slash (first second : Text) :
    (ofText (first ++ slash :: second)).names =
      (ofText first).names ++ (ofText second).names := by
  simp only [ofText, ofNames, segments_append_slash, List.filter_append]

end Path

namespace Settings

/-- The directory that holds the directories of all pallets. -/
def palletsName : Text := "pallets"

/-- The name of every types file. -/
def fileName : Text := "types.json"

theorem names_palletTemplate (pallet : Text) :
    (Path.ofText ("../pallets/" ++ pallet ++ "/types.json")).names =
      upward :: palletsName :: ((Path.ofText pallet).names ++ [fileName]) := by
  have shape : Text.ofString "../pallets/" ++ pallet ++
      Text.ofString "/types.json" =
        upward ++ slash :: (palletsName ++
          slash :: (pallet ++ slash :: fileName)) := by
    simp [Text.ofString, Text.ofChars, slash, upward, palletsName, fileName]
  rw [shape, Path.names_ofText_append_slash, Path.names_ofText_append_slash,
    Path.names_ofText_append_slash]
  rfl

theorem defect?_palletTemplate_eq_none_iff {pallet : Text} :
    (Path.ofText ("../pallets/" ++ pallet ++ "/types.json")).defect? = none ↔
      (Path.ofText pallet).defect? = none := by
  have fitsUpward : ∀ point ∈ upward, ¬point.IsUnfit := by
    unfold CodePoint.IsUnfit
    decide
  have fitsPallets : ∀ point ∈ palletsName, ¬point.IsUnfit := by
    unfold CodePoint.IsUnfit
    decide
  have fitsFile : ∀ point ∈ fileName, ¬point.IsUnfit := by
    unfold CodePoint.IsUnfit
    decide
  simp only [Path.defect?_eq_none_iff, names_palletTemplate,
    List.forall_mem_cons, List.forall_mem_append]
  exact ⟨fun fits => fits.2.2.1,
    fun fits => ⟨fitsUpward, fitsPallets, fits, fitsFile, by simp⟩⟩

/-- The types file of a pallet has a path that the system takes if the base
directory and the pallet have. -/
theorem defect?_palletPath_eq_none_iff {settings : Settings} {pallet : Text} :
    (settings.palletPath pallet).defect? = none ↔
      settings.baseDir.defect? = none ∧
        (Path.ofText pallet).defect? = none := by
  rw [palletPath, typesFile,
    Path.defect?_join_eq_none_iff (root_palletTemplate pallet),
    defect?_palletTemplate_eq_none_iff]

theorem names_palletPath (settings : Settings) (pallet : Text) :
    (settings.palletPath pallet).names =
      settings.baseDir.names ++
        upward :: palletsName :: ((Path.ofText pallet).names ++ [fileName]) := by
  rw [palletPath, typesFile, Path.names_join (root_palletTemplate pallet),
    names_palletTemplate]

theorem root_palletPath (settings : Settings) (pallet : Text) :
    (settings.palletPath pallet).root = settings.baseDir.root :=
  Path.root_join (root_palletTemplate pallet)

theorem names_outputPath (settings : Settings) :
    settings.outputPath.names =
      settings.baseDir.names ++ [upward, fileName] := by
  have template : (Path.ofText "../types.json").names =
      [upward, fileName] := by decide
  rw [outputPath, mergedFile, Path.names_join root_outputTemplate, template]

theorem root_outputPath (settings : Settings) :
    settings.outputPath.root = settings.baseDir.root :=
  Path.root_join root_outputTemplate

theorem getLast?_outputPath (settings : Settings) :
    settings.outputPath.names.getLast? = some fileName := by
  simp [names_outputPath]

theorem names_parent_outputPath (settings : Settings) :
    settings.outputPath.parent.names = settings.baseDir.names ++ [upward] := by
  simp [Path.parent, names_outputPath]

end Settings

end PalletTypes
