import PalletTypes.Proofs.Aggregation.Landed
import PalletTypes.Proofs.TypesFile.Document

/-!
# All or nothing

A run that succeeds leaves the merged document at its output and everything
else as it was; a run that fails leaves everything as it was.  There is one
exception, and `allOrNothing_iff` says exactly when it arises: without pallets
nothing is read before the writing, so a base directory that cannot be handed
to the system is noticed only when the temporary file is moved, and then the
temporary file stays behind.
-/

namespace PalletTypes.Aggregation

/-- A run has done all of its work or none of it. -/
structure AllOrNothing (settings : Settings) (files : FileSystem)
    (place : Place) (run : TypesFile.Outcome Path) : Prop where
  /-- After a success the output holds the document of the collected table,
  and every other location is as before. -/
  done : ∀ path, run.result = .ok path → path = settings.outputPath ∧
    ∃ table bytes target,
      (collect settings files place).2 = .ok table ∧
      TypesFile.encode table = .ok bytes ∧
      run.files.walk place settings.outputPath =
        .ok (.file target FileSystem.publicMode bytes) ∧
      run.files.read place settings.outputPath = .ok bytes ∧
      ∀ other, other ≠ target → run.files.node? other = files.node? other
  /-- After a failure every location is as before. -/
  undone : ∀ failure, run.result = .error failure →
    ((∃ error, failure = .types error) ∨
      ∃ defect, failure = .defective defect) ∧
    ∀ location, run.files.node? location = files.node? location

/-- The run has no pallets, its base directory cannot be handed to the system,
and the document of the seeds gets as far as the temporary file. -/
def Strands (settings : Settings) (files : FileSystem) (place : Place)
    (temporary : Text) : Prop :=
  settings.pallets = [] ∧ settings.baseDir.defect? ≠ none ∧
    ∃ bytes directory location,
      TypesFile.Staged files place temporary (seed settings).table
        settings.outputPath bytes directory location

section

variable {settings : Settings} {files : FileSystem} {place : Place}
  {temporary : Text}

/-- A collected table comes from seeds alone or from a base directory that can
be handed to the system. -/
theorem no_defect_of_collect {table : TypeTable}
    (collected : (collect settings files place).2 = .ok table) :
    settings.pallets = [] ∧ table = (seed settings).table ∨
      settings.baseDir.defect? = none := by
  rw [collect_result] at collected
  cases pallets : settings.pallets with
  | nil =>
      simp only [pallets, loadAll, Except.map, List.append_nil,
        Except.ok.injEq] at collected
      exact Or.inl ⟨rfl, collected.symm⟩
  | cons pallet rest =>
      cases spoiled : settings.baseDir.defect? with
      | none => exact Or.inr rfl
      | some defect =>
          have spoilsPallet := Settings.defect?_palletPath_ne_none settings
            (by simp [spoiled]) pallet
          obtain ⟨defect, found⟩ := Option.ne_none_iff_exists'.mp spoilsPallet
          simp [pallets, loadAll, TypesFile.load_of_defect found,
            Except.map] at collected

/-- What stays behind in the exceptional case is one more public file, with
the whole document in it. -/
theorem aggregate_of_strands
    (strands : Strands settings files place temporary) :
    ∃ bytes directory location defect,
      TypesFile.Staged files place temporary (seed settings).table
        settings.outputPath bytes directory location ∧
      files.node? location = none ∧
      (aggregate settings files place temporary).files =
        files.publish location bytes ∧
      (aggregate settings files place temporary).result =
        .error (.defective defect) := by
  obtain ⟨pallets, spoiled, bytes, directory, location, staged⟩ := strands
  have collected : (collect settings files place).2 =
      .ok (seed settings).table := by
    simp [collect_result, pallets, loadAll_nil, Except.map, seed_eq_addAll]
  have outputSpoiled := mt Settings.defect?_outputPath_eq_none_iff.mp spoiled
  obtain ⟨defect, found⟩ := Option.ne_none_iff_exists'.mp outputSpoiled
  have landing : (files.publish location bytes).landing place
      settings.outputPath = .error (.defective defect) :=
    FileSystem.landing_eq_defective_iff.mpr found
  have written := TypesFile.write_of_staged staged true
  simp only [TypesFile.settle, FileSystem.rename, landing] at written
  obtain ⟨created, success⟩ := staged.created
  refine ⟨bytes, directory, location, defect, staged,
    FileSystem.free_of_create success, ?_, ?_⟩
  · simp only [files_aggregate, collected, written]
  · simp only [result_aggregate, collected, written, Except.map]

theorem not_allOrNothing_of_strands
    (strands : Strands settings files place temporary) :
    ¬AllOrNothing settings files place
      (aggregate settings files place temporary) := by
  obtain ⟨bytes, _, location, defect, _, free, filesAfter, failed⟩ :=
    aggregate_of_strands strands
  intro promise
  have asBefore := (promise.undone _ failed).2 location
  rw [filesAfter, FileSystem.node?_publish
    (FileSystem.ne_nil_of_free free), if_pos rfl, free] at asBefore
  simp at asBefore

/-- A run that succeeds has published the document of the collected table at
its output. -/
theorem done_of_result {path : Path}
    (succeeded : (aggregate settings files place temporary).result =
      .ok path) :
    path = settings.outputPath ∧ ∃ table bytes target,
      (collect settings files place).2 = .ok table ∧
      TypesFile.encode table = .ok bytes ∧
      (aggregate settings files place temporary).files.walk place
          settings.outputPath =
        .ok (.file target FileSystem.publicMode bytes) ∧
      (aggregate settings files place temporary).files.read place
          settings.outputPath = .ok bytes ∧
      ∀ other, other ≠ target →
        (aggregate settings files place temporary).files.node? other =
          files.node? other := by
  obtain ⟨loaded, bytes, directory, location, target, landed⟩ :=
    landed_of_result succeeded
  obtain ⟨filesAfter, resultAfter⟩ := aggregate_of_landed landed
  have named := FileSystem.ne_nil_of_not_directory
    (FileSystem.not_directory_of_landing landed.landing)
  rw [resultAfter, Except.ok.injEq] at succeeded
  rw [filesAfter]
  refine ⟨succeeded.symm, merged settings loaded, bytes, target,
    collect_of_landed landed, landed.staged.encoded, ?_, ?_, ?_⟩
  · exact FileSystem.walk_put_of_landing landed.landing _ bytes
  · exact FileSystem.read_put_of_landing landed.landing _ bytes
  · intro other elsewhere
    rw [FileSystem.node?_publish named, if_neg (Ne.symm elsewhere)]

theorem collect_failure {failure : Failure}
    (failed : (collect settings files place).2 = .error failure) :
    (∃ error, failure = .types error) ∨
      ∃ defect, failure = .defective defect := by
  obtain ⟨_, pallet, _, _, _, refused⟩ :=
    loadAll_failure (collect_eq_error_iff.mp failed)
  rcases TypesFile.load_failure refused with ⟨reason, rfl⟩ | ⟨defect, _, rfl⟩
  · exact Or.inl ⟨_, rfl⟩
  · exact Or.inr ⟨defect, rfl⟩

/-- A run that fails without stranding its temporary file has changed
nothing: whatever was staged has been removed again. -/
theorem undone_of_result {failure : Failure}
    (kept : ¬Strands settings files place temporary)
    (failed : (aggregate settings files place temporary).result =
      .error failure) :
    ((∃ error, failure = .types error) ∨
      ∃ defect, failure = .defective defect) ∧
    (aggregate settings files place temporary).files = files := by
  rw [files_aggregate]
  rw [result_aggregate] at failed
  cases collected : (collect settings files place).2 with
  | error cause =>
      simp only [collected, Except.error.injEq] at failed
      subst cause
      exact ⟨collect_failure collected, rfl⟩
  | ok table =>
      simp only [collected] at failed ⊢
      have ending := TypesFile.ending_write files place temporary true table
        settings.outputPath
      generalize TypesFile.write files place temporary true table
        settings.outputPath = written at ending failed ⊢
      cases ending with
      | unserializable refused =>
          cases failed
          exact ⟨Or.inl ⟨_, rfl⟩, rfl⟩
      | homeless encoded lost =>
          cases failed
          exact ⟨Or.inl ⟨_, rfl⟩, rfl⟩
      | notCreated encoded staging refused =>
          cases failed
          exact ⟨Or.inl ⟨_, rfl⟩, rfl⟩
      | unnameable encoded staging refused =>
          cases failed
          exact ⟨Or.inr ⟨_, rfl⟩, rfl⟩
      | undone staged refused removed =>
          cases failed
          exact ⟨Or.inl ⟨_, rfl⟩, rfl⟩
      | leftover staged refused isKept => exact nomatch isKept
      | stranded staged refused =>
          -- The base directory has a defect, so nothing has been loaded.
          exfalso
          have found := FileSystem.landing_eq_defective_iff.mp refused
          rcases no_defect_of_collect collected with ⟨pallets, rfl⟩ | fits
          · apply kept
            refine ⟨pallets, ?_, _, _, _, staged⟩
            rw [ne_eq, ← Settings.defect?_outputPath_eq_none_iff, found]
            simp
          · simp [Settings.defect?_outputPath_eq_none_iff.mpr fits] at found
      | landed staged landing => exact nomatch failed

theorem allOrNothing_of_not_strands
    (kept : ¬Strands settings files place temporary) :
    AllOrNothing settings files place
      (aggregate settings files place temporary) := by
  constructor
  · intro path succeeded
    exact done_of_result succeeded
  · intro failure failed
    obtain ⟨kind, unchanged⟩ := undone_of_result kept failed
    exact ⟨kind, fun location => by rw [unchanged]⟩

/-- A run does all or nothing if and only if it is not the exceptional one,
and that one leaves a single new file with the document of the seeds. -/
theorem allOrNothing_iff (settings : Settings) (files : FileSystem)
    (place : Place) (temporary : Text) :
    (AllOrNothing settings files place
        (aggregate settings files place temporary) ↔
      ¬Strands settings files place temporary) ∧
    (Strands settings files place temporary →
      ∃ bytes directory location defect,
        TypesFile.Staged files place temporary (seed settings).table
          settings.outputPath bytes directory location ∧
        files.node? location = none ∧
        (aggregate settings files place temporary).files =
          files.publish location bytes ∧
        (aggregate settings files place temporary).result =
          .error (.defective defect)) := by
  refine ⟨⟨?_, allOrNothing_of_not_strands⟩, aggregate_of_strands⟩
  exact fun promise strands => not_allOrNothing_of_strands strands promise

end

/-- Settings without pallets, with a base directory that no path may hold. -/
def unreachableBase : Settings :=
  { baseDir := .ofText "a\x00b"
    pallets := []
    runtimeTypes := Settings.defaultRuntimeTypes
    customTypes := Settings.defaultCustomTypes
    logging := {} }

/-- The exceptional run: the temporary file stays in the working directory,
which the path of the output names by way of the base directory. -/
theorem not_allOrNothing_unreachableBase :
    ¬AllOrNothing unreachableBase ⟨[(["scripts"], .directory)]⟩
      ⟨["scripts"], 0⟩
      (aggregate unreachableBase ⟨[(["scripts"], .directory)]⟩
        ⟨["scripts"], 0⟩ (TypesFile.temporaryName "00000000")) := by
  have created : ∃ location created,
      FileSystem.create ⟨[(["scripts"], .directory)]⟩ .top
        (.ofText "/scripts") (TypesFile.temporaryName "00000000") =
          .ok (location, created) := by
    simp only [FileSystem.create_eq_ok_iff]
    exact ⟨_, _, by decide, ⟨["scripts"], 0⟩, rfl,
      by unfold Place.Admits; decide, rfl, by rfl, rfl⟩
  obtain ⟨location, created, success⟩ := created
  have strands : Strands unreachableBase ⟨[(["scripts"], .directory)]⟩
      ⟨["scripts"], 0⟩ (TypesFile.temporaryName "00000000") :=
    ⟨rfl, by decide, _, .ofText "/scripts", location,
      TypesFile.encode_eq_ok_iff.mpr ⟨by decide, rfl⟩, by decide, created,
      success⟩
  exact not_allOrNothing_of_strands strands

end PalletTypes.Aggregation
