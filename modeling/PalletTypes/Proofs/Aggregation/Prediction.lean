import PalletTypes.Proofs.Aggregation.AllOrNothing
import PalletTypes.Proofs.Aggregation.PathLimit
import PalletTypes.Proofs.Aggregation.Success
import PalletTypes.Proofs.Settings.Findings
import PalletTypes.Proofs.TypesFile.Outcomes

/-!
# What validation predicts

Validation asks whether the directory of the output is there; a run reads the
pallets by way of it and moves the output into it.  So a run fails where
validation warns about the directory or gets no answer, be there pallets or
not.  Where validation does not warn, the temporary file can be created, for it
goes to the same directory; its path is absolute, so a relative base directory
needs a working directory that exists.
-/

namespace PalletTypes

namespace Reason

/-- What reasons that are about no step of a writing begin with. -/
def readingWords : List String :=
  ["Cannot read types file", "Invalid JSON", "Types file"]

theorem exists_readingWords {reason : Reason} (apart : reason.step? = none) :
    ∃ words ∈ readingWords, reason.Begins words := by
  cases reason with
  | unreadable cause =>
      exact ⟨"Cannot read types file", by simp [readingWords],
        prefix_append_details (by decide) _ _⟩
  | malformed place =>
      exact ⟨"Invalid JSON", by simp [readingWords],
        prefix_append_details (by decide) _ _⟩
  | notMapping kind =>
      refine ⟨"Types file", by simp [readingWords], ?_⟩
      unfold Begins
      cases kind <;> decide
  | _ => exact nomatch apart

/-- Only a reason about a step of a writing begins with the words of a step. -/
theorem begins_iff_step? {reason : Reason} {step : WritingStep} :
    reason.Begins step.words ↔ reason.step? = some step := by
  cases about : reason.step? with
  | some other => rw [begins_words_iff about, Option.some.injEq, eq_comm]
  | none =>
      simp only [reduceCtorEq, iff_false]
      intro begins
      obtain ⟨words, listed, own⟩ := exists_readingWords about
      have clash := List.prefix_or_prefix_of_prefix own begins
      have foreign : ∀ words ∈ readingWords,
          ¬(words.toList <+: step.words.toList ∨
            step.words.toList <+: words.toList) := by
        cases step <;> decide
      exact foreign words listed clash

end Reason

namespace FileSystem

theorem isDirectory_eq_true_iff_leads {files : FileSystem} {place : Place}
    {path : Path} :
    files.isDirectory place path = .ok true ↔
      files.LeadsToDirectory place path := by
  constructor
  · exact fun answered => (isDirectory_iff answered).mp rfl
  · rintro ⟨accepted, directory, entered⟩
    rw [enter_eq_ok_iff] at entered
    simp [isDirectory, probe, accepted, entered]

end FileSystem

namespace Settings

variable {settings : Settings} {files : FileSystem} {place : Place}

/-- Validation warns that the directory of the output does not exist. -/
def WarnsOfDirectory (settings : Settings) (validation : Validation) : Prop :=
  Validation.directoryWarning settings.outputPath.parent ∈ validation.warnings

theorem directoryWarning_not_mem_repetitions (directory : Path)
    (pallets : List Text) :
    Validation.directoryWarning directory ∉
      Validation.repetitions [] pallets := by
  rw [Validation.repetitions_nil, Validation.repetitionWarnings]
  intro member
  obtain ⟨entry, _, same⟩ := List.mem_map.mp member
  exact absurd (List.head_eq_of_cons_eq same) (by decide)

/-- Validation neither fails nor warns of the directory of the output if and
only if it is a directory. -/
theorem validates_directory_iff :
    (∃ validation, settings.validate files place = .ok validation ∧
      ¬settings.WarnsOfDirectory validation) ↔
      files.isDirectory place settings.outputPath.parent = .ok true := by
  have absent := directoryWarning_not_mem_repetitions
    settings.outputPath.parent settings.pallets
  cases answered : files.isDirectory place settings.outputPath.parent with
  | error cause => simp [validate, answered]
  | ok answer =>
      cases answer <;> simp [validate, answered, WarnsOfDirectory, absent]

theorem defect?_parent_outputPath_eq_none_iff :
    settings.outputPath.parent.defect? = none ↔
      settings.baseDir.defect? = none := by
  have fitsUpward : ∀ point ∈ upward, ¬point.IsUnfit := by
    unfold CodePoint.IsUnfit
    decide
  simp only [Path.defect?_eq_none_iff, names_parent_outputPath,
    List.forall_mem_append, List.forall_mem_singleton]
  exact and_iff_left fitsUpward

end Settings

namespace Path

/-- The parent of a path that the system takes is taken, too. -/
theorem refusal?_parent {path : Path} (nonempty : path.parent.names ≠ [])
    (accepted : path.refusal? = none) : path.parent.refusal? = none := by
  obtain ⟨fits, short⟩ := refusal?_eq_none_iff.mp accepted
  have named : path.names ≠ [] := fun empty =>
    nonempty (by simp [parent, empty])
  refine refusal?_eq_none_iff.mpr ⟨?_, ?_⟩
  · rw [defect?_eq_none_iff] at fits ⊢
    exact fun name member => fits name (List.dropLast_subset _ member)
  · have root : path.parent.root = path.root := rfl
    have shorter := namesSize_dropLast_le path.names
    exact isTooLong_of_le root named shorter nonempty short

end Path

namespace TypesFile

/-- A reading that fails gives no reason about a writing. -/
theorem step?_of_load {files : FileSystem} {place : Place} {path : Path}
    {error : TypesError}
    (failed : load files place path = .error (.types error)) :
    error.reason.step? = none := by
  unfold load at failed
  cases contents : files.read place path with
  | error refusal =>
      rw [contents] at failed
      cases refusal <;> cases failed
      rfl
  | ok bytes =>
      cases decoded : decode bytes with
      | ok table => simp [contents, decoded] at failed
      | error reason =>
          simp only [contents, decoded] at failed
          cases failed
          unfold decode at decoded
          split at decoded <;> cases decoded <;> rfl

end TypesFile

namespace Aggregation

variable {settings : Settings} {files : FileSystem} {place : Place}
  {temporary : Text}

/-- A run that succeeds has put its output into a directory. -/
theorem isDirectory_of_result {path : Path}
    (succeeded : (aggregate settings files place temporary).result =
      .ok path) :
    files.isDirectory place settings.outputPath.parent = .ok true := by
  obtain ⟨_, _, _, _, _, landed⟩ := landed_of_result succeeded
  obtain ⟨accepted, directory, _, entered, _⟩ :=
    FileSystem.landing_eq_ok_iff.mp landed.landing
  have named : settings.outputPath.parent.names ≠ [] := by
    simp [Settings.names_parent_outputPath]
  exact FileSystem.isDirectory_eq_true_iff_leads.mpr
    ⟨Path.refusal?_parent named accepted, directory, entered⟩

theorem step?_of_collect {error : TypesError}
    (failed : (collect settings files place).2 = .error (.types error)) :
    error.reason.step? = none := by
  obtain ⟨_, pallet, _, _, _, refused⟩ :=
    loadAll_failure (collect_eq_error_iff.mp failed)
  exact TypesFile.step?_of_load refused

/-- The temporary file of a run can be created where the directory of the
output is there. -/
theorem step?_of_isDirectory {error : TypesError}
    (stands : files.isDirectory place settings.outputPath.parent = .ok true)
    (start : TypesFile.HasStart files place settings.outputPath)
    (pick : TypesFile.MayPick files place settings.outputPath temporary)
    (short : ∀ directory,
      TypesFile.stagingDirectory? place settings.outputPath = some directory →
        (directory.join (.ofText temporary)).isTooLong = false)
    (failed : (aggregate settings files place temporary).result =
      .error (.types error)) :
    error.reason.step? ≠ some .creating := by
  obtain ⟨accepted, parent, entered⟩ :=
    FileSystem.isDirectory_eq_true_iff_leads.mp stands
  have fitsBase := Settings.defect?_parent_outputPath_eq_none_iff.mp
    (Path.refusal?_eq_none_iff.mp accepted).1
  have fits := Settings.defect?_outputPath_eq_none_iff.mpr fitsBase
  rw [result_aggregate] at failed
  cases collected : (collect settings files place).2 with
  | error cause =>
      rw [collected] at failed
      cases failed
      simp [step?_of_collect collected]
  | ok table =>
      simp only [collected] at failed
      have ending := TypesFile.ending_write files place temporary true table
        settings.outputPath
      generalize TypesFile.write files place temporary true table
        settings.outputPath = written at ending failed
      cases ending with
      | homeless encoded lost =>
          obtain ⟨directory, staging⟩ := TypesFile.exists_staging start
          cases lost.symm.trans staging
      | @notCreated bytes directory cause encoded staging refused =>
          obtain ⟨location, created, success⟩ := TypesFile.create_staging start
            staging entered fits pick (short directory staging)
          cases refused.symm.trans success
      | unserializable refused =>
          cases failed
          simp [Reason.step?]
      | undone staged refused removed =>
          cases failed
          simp [Reason.step?]
      | leftover staged refused isKept => cases isKept
      | _ => cases failed

/-- Where validation warns of the directory of the output or gets no answer, a
run fails, and it changes nothing unless it strands its temporary file.  Where
validation does not warn, a run does not fail to create its temporary file. -/
theorem validate_predicts (settings : Settings) (files : FileSystem)
    (place : Place) (temporary : Text) :
    let run := aggregate settings files place temporary
    ((∃ failure, settings.validate files place = .error failure) ∨
        (∃ validation, settings.validate files place = .ok validation ∧
          settings.WarnsOfDirectory validation) →
      (∃ failure, run.result = .error failure) ∧
        (¬Strands settings files place temporary → run.files = files)) ∧
    ∀ validation, settings.validate files place = .ok validation →
      ¬settings.WarnsOfDirectory validation →
      (settings.baseDir.root = .relative → place.Exists files) →
      TypesFile.MayPick files place settings.outputPath temporary →
      (∀ directory,
        TypesFile.stagingDirectory? place settings.outputPath =
            some directory →
          (directory.join (.ofText temporary)).isTooLong = false) →
      ∀ error, run.result = .error (.types error) →
        ¬error.reason.Begins "Cannot create types file" := by
  intro run
  constructor
  · intro foretold
    have absent :
        files.isDirectory place settings.outputPath.parent ≠ .ok true := by
      rw [ne_eq, ← Settings.validates_directory_iff]
      rintro ⟨validation, validated, silent⟩
      rcases foretold with ⟨failure, failed⟩ | ⟨other, again, warned⟩
      · exact nomatch failed.symm.trans validated
      · cases again.symm.trans validated
        exact silent warned
    have fails : ∃ failure, run.result = .error failure := by
      cases result : run.result with
      | ok path => exact absurd (isDirectory_of_result result) absent
      | error failure => exact ⟨failure, rfl⟩
    obtain ⟨failure, failed⟩ := fails
    exact ⟨⟨failure, failed⟩, fun kept => (undone_of_result kept failed).2⟩
  · intro validation validated silent here pick short error failed begins
    have stands := Settings.validates_directory_iff.mp
      ⟨validation, validated, silent⟩
    have start : TypesFile.HasStart files place settings.outputPath :=
      fun relative => here (Settings.root_outputPath settings ▸ relative)
    have about : error.reason.step? = some .creating :=
      Reason.begins_iff_step?.mp begins
    exact step?_of_isDirectory stands start pick short failed about

/-- Settings without pallets. -/
def palletless (baseDir : Text) : Settings :=
  { unreachableBase with baseDir := .ofText baseDir }

def scriptsFiles : FileSystem := ⟨[(["scripts"], .directory)]⟩

/-- A base directory that does not exist is foretold to fail, although its name
is cancelled in the path of the temporary file; one that exists is foretold not
to fail in creating it. -/
theorem validate_predicts_palletless :
    (∃ validation,
      (palletless "missing").validate scriptsFiles ⟨["scripts"], 0⟩ =
          .ok validation ∧
        (palletless "missing").WarnsOfDirectory validation) ∧
    (∃ failure, (aggregate (palletless "missing") scriptsFiles ⟨["scripts"], 0⟩
      (TypesFile.temporaryName "00000000")).result = .error failure) ∧
    (aggregate (palletless "missing") scriptsFiles ⟨["scripts"], 0⟩
      (TypesFile.temporaryName "00000000")).files = scriptsFiles ∧
    ∀ error, (aggregate (palletless "") scriptsFiles ⟨["scripts"], 0⟩
        (TypesFile.temporaryName "00000000")).result = .error (.types error) →
      ¬error.reason.Begins "Cannot create types file" := by
  have warned : ∃ validation,
      (palletless "missing").validate scriptsFiles ⟨["scripts"], 0⟩ =
          .ok validation ∧
        (palletless "missing").WarnsOfDirectory validation :=
    ⟨_, by rfl, by unfold Settings.WarnsOfDirectory; decide⟩
  have kept : ¬Strands (palletless "missing") scriptsFiles ⟨["scripts"], 0⟩
      (TypesFile.temporaryName "00000000") :=
    fun strands => strands.2.1 (by decide)
  have foretold := (validate_predicts (palletless "missing") scriptsFiles
    ⟨["scripts"], 0⟩ (TypesFile.temporaryName "00000000")).1 (Or.inr warned)
  have silent : ∃ validation,
      (palletless "").validate scriptsFiles ⟨["scripts"], 0⟩ =
          .ok validation ∧
        ¬(palletless "").WarnsOfDirectory validation :=
    ⟨_, by rfl, by unfold Settings.WarnsOfDirectory; decide⟩
  obtain ⟨validation, validated, silent⟩ := silent
  have exist : Place.Exists scriptsFiles ⟨["scripts"], 0⟩ :=
    ⟨by decide, by unfold Place.IsNameable CodePoint.IsUnfit; decide,
      by decide, by rfl⟩
  have staging : TypesFile.stagingDirectory? ⟨["scripts"], 0⟩
      (palletless "").outputPath = some (.ofText "/") := by decide
  have entered : scriptsFiles.enter .top (.ofText "/") = .ok .top := by rfl
  have pick : TypesFile.MayPick scriptsFiles ⟨["scripts"], 0⟩
      (palletless "").outputPath (TypesFile.temporaryName "00000000") :=
    TypesFile.mayPick_of_vacant staging (by decide) entered rfl
      ⟨"00000000".toList, by decide, by decide, rfl⟩ (by rfl)
  refine ⟨warned, foretold.1, foretold.2 kept, ?_⟩
  exact (validate_predicts (palletless "") scriptsFiles ⟨["scripts"], 0⟩
    (TypesFile.temporaryName "00000000")).2 validation validated silent
    (fun _ => exist) pick (fun directory found => by
      cases staging.symm.trans found
      decide)

/-- In a working directory that has been removed validation does not warn, but
there is no directory for the temporary file. -/
theorem unwarned_removed :
    (∃ validation,
      (detour "..").validate detourFiles ⟨["scripts"], 1⟩ = .ok validation ∧
        ¬(detour "..").WarnsOfDirectory validation) ∧
    ∃ error,
      (aggregate (detour "..") detourFiles ⟨["scripts"], 1⟩
        (TypesFile.temporaryName "00000000")).result = .error (.types error) ∧
      error.reason.Begins "Cannot create types file" := by
  have collected : (collect (detour "..") detourFiles ⟨["scripts"], 1⟩).2 = _ :=
    collect_detour (by rfl)
  have refused : (aggregate (detour "..") detourFiles ⟨["scripts"], 1⟩
      (TypesFile.temporaryName "00000000")).result =
        .error (.types ⟨(detour "..").outputPath, .notCreated .missing⟩) := by
    rw [result_aggregate, collected]
    simp only [TypesFile.write, encode_detour]
    rfl
  have about : (Reason.notCreated .missing).step? = some .creating := rfl
  exact ⟨⟨_, by rfl, by unfold Settings.WarnsOfDirectory; decide⟩, _, refused,
    Reason.begins_of_step? about⟩

end Aggregation

end PalletTypes
