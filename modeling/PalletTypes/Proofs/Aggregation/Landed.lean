import PalletTypes.Proofs.Aggregation.Sources
import PalletTypes.Proofs.TypesFile.Endings

/-!
# Runs that succeed

A run succeeds if its pallets can be loaded, the merged table can be staged,
and the output is a path on which the staged file can land.  Then it publishes
the document at its target and does nothing else.
-/

namespace PalletTypes.Aggregation

variable {settings : Settings} {files : FileSystem} {place : Place}

/-- The table that a run with these loaded pallets writes. -/
def merged (settings : Settings) (loaded : List (Text × TypeTable)) :
    TypeTable :=
  (Merge.empty.addAll (seeds settings ++ loaded)).table

/-- A run has loaded its pallets, staged the merged table and moved it to a
target. -/
structure Landed (settings : Settings) (files : FileSystem) (place : Place)
    (temporary : Text) (loaded : List (Text × TypeTable)) (bytes : ByteArray)
    (directory : Path) (location target : Location) : Prop where
  loading : loadAll settings files place settings.pallets = .ok loaded
  staged : TypesFile.Staged files place temporary (merged settings loaded)
    settings.outputPath bytes directory location
  landing : files.landing place settings.outputPath = .ok target

theorem landed_of_result {temporary : Text} {path : Path}
    (succeeded : (aggregate settings files place temporary).result =
      .ok path) :
    ∃ loaded bytes directory location target,
      Landed settings files place temporary loaded bytes directory location
        target := by
  rw [result_aggregate, collect_result] at succeeded
  cases loading : loadAll settings files place settings.pallets with
  | error failure => simp [loading, Except.map] at succeeded
  | ok loaded =>
      simp only [loading, Except.map] at succeeded
      have ending := TypesFile.ending_write files place temporary true
        (merged settings loaded) settings.outputPath
      unfold merged at ending
      generalize TypesFile.write files place temporary true _
        settings.outputPath = written at ending succeeded
      cases ending with
      | landed staged landing =>
          exact ⟨loaded, _, _, _, _, loading, staged, landing⟩
      | _ => exact nomatch succeeded

theorem collect_of_landed {temporary : Text}
    {loaded : List (Text × TypeTable)} {bytes : ByteArray} {directory : Path}
    {location target : Location}
    (landed : Landed settings files place temporary loaded bytes directory
      location target) :
    (collect settings files place).2 = .ok (merged settings loaded) := by
  rw [collect_result, landed.loading]
  rfl

theorem aggregate_of_landed {temporary : Text}
    {loaded : List (Text × TypeTable)} {bytes : ByteArray} {directory : Path}
    {location target : Location}
    (landed : Landed settings files place temporary loaded bytes directory
      location target) :
    (aggregate settings files place temporary).files =
        files.publish target bytes ∧
      (aggregate settings files place temporary).result =
        .ok settings.outputPath := by
  have collected := collect_of_landed landed
  have written := TypesFile.write_of_landing landed.staged landed.landing true
  constructor
  · simp only [files_aggregate, collected, written]
  · simp only [result_aggregate, collected, written, Except.map]

end PalletTypes.Aggregation
