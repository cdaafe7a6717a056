import PalletTypes.Proofs.Aggregation.Landed
import PalletTypes.Proofs.Path.Templates
import PalletTypes.Proofs.TypesFile.Document
import PalletTypes.Proofs.TypesFile.Staging

/-!
# When a run succeeds

The types file of every pallet lies on a way through the directory above the
base directory, and this is the directory of the output.  So once a pallet has
been read, the output directory is there and the temporary file can be
created in it, whatever the pallets are called.  What can still go wrong is
that the merged table has no document or that a directory stands in the place
of the output.

The directory of the temporary file is found by name, so a relative base
directory needs a working directory that exists; reading the pallets does not.
-/

namespace PalletTypes.Aggregation

section

variable {settings : Settings} {files : FileSystem} {place : Place}
  {temporary : Text}

/-- The output can be put in a directory that its path leads to. -/
structure OutputDirectory (settings : Settings) (files : FileSystem)
    (place parent : Place) : Prop where
  accepted : settings.outputPath.refusal? = none
  entered : files.enter place settings.outputPath.parent = .ok parent
  admitted : parent.Admits Settings.fileName

/-- Reading a pallet goes through the directory of the output. -/
theorem enter_of_isReadable {pallet : Text}
    (readable : IsReadable settings files place pallet) :
    ∃ parent, files.enter place settings.outputPath.parent = .ok parent := by
  obtain ⟨table, loaded⟩ := readable
  obtain ⟨bytes, read, _⟩ := TypesFile.load_eq_ok_iff.mp loaded
  obtain ⟨_, location, mode, walked⟩ := FileSystem.read_eq_ok_iff.mp read
  rw [FileSystem.walk, Settings.root_palletPath, Settings.names_palletPath,
    List.append_cons] at walked
  obtain ⟨parent, arrival⟩ := FileSystem.exists_directory_of_follow walked
  refine ⟨parent, FileSystem.enter_eq_ok_iff.mpr ?_⟩
  rw [FileSystem.walk, Settings.names_parent_outputPath]
  exact Settings.root_outputPath settings ▸ arrival

theorem refusal?_palletPath_of_isReadable {pallet : Text}
    (readable : IsReadable settings files place pallet) :
    (settings.palletPath pallet).refusal? = none := by
  obtain ⟨table, loaded⟩ := readable
  obtain ⟨bytes, read, _⟩ := TypesFile.load_eq_ok_iff.mp loaded
  exact (FileSystem.read_eq_ok_iff.mp read).1

/-- Once a pallet has been read, the output can be put somewhere. -/
theorem exists_outputDirectory {pallet : Text}
    (readable : IsReadable settings files place pallet)
    (start : TypesFile.HasStart files place settings.outputPath)
    (short : settings.outputPath.isTooLong = false) :
    ∃ parent, OutputDirectory settings files place parent := by
  obtain ⟨parent, entered⟩ := enter_of_isReadable readable
  obtain ⟨directory, staging⟩ := TypesFile.exists_staging start
  have present :=
    (TypesFile.leadsDown_staging start staging entered).present
  have accepted := refusal?_palletPath_of_isReadable readable
  have fits := (Path.refusal?_eq_none_iff.mp accepted).1
  have fitsBase := (Settings.defect?_palletPath_eq_none_iff.mp fits).1
  have fitsOutput := Settings.defect?_outputPath_eq_none_iff.mpr fitsBase
  exact ⟨parent, Path.refusal?_eq_none_iff.mpr ⟨fitsOutput, short⟩, entered,
    by decide, present, by decide⟩

/-- The temporary file can be created wherever the output can be put. -/
theorem exists_staged {parent : Place} {table : TypeTable} {bytes : ByteArray}
    (opens : OutputDirectory settings files place parent)
    (start : TypesFile.HasStart files place settings.outputPath)
    (pick : TypesFile.MayPick files place settings.outputPath temporary)
    (short : ∀ directory,
      TypesFile.stagingDirectory? place settings.outputPath = some directory →
        (directory.join (.ofText temporary)).isTooLong = false)
    (encoded : TypesFile.encode table = .ok bytes) :
    ∃ directory location,
      TypesFile.Staged files place temporary table settings.outputPath bytes
        directory location := by
  obtain ⟨directory, staging⟩ := TypesFile.exists_staging start
  have fits := (Path.refusal?_eq_none_iff.mp opens.accepted).1
  obtain ⟨location, created, success⟩ := TypesFile.create_staging start
    staging opens.entered fits pick (short directory staging)
  exact ⟨directory, location, encoded, staging, created, success⟩

/-- The output path leads to a directory if one stands in its place. -/
theorem OutputDirectory.isDirectory_iff {parent : Place}
    (opens : OutputDirectory settings files place parent) :
    files.isDirectory place settings.outputPath = .ok true ↔
      files.node? (parent.child Settings.fileName) = some .directory :=
  FileSystem.isDirectory_eq_true_iff opens.accepted opens.entered
    (Settings.getLast?_outputPath settings) opens.admitted

/-- The writing of a staged document is refused if a directory stands in the
place of the output. -/
theorem write_of_isDirectory {parent : Place} {table : TypeTable}
    {bytes : ByteArray} {directory : Path} {location : Location}
    (opens : OutputDirectory settings files place parent)
    (staged : TypesFile.Staged files place temporary table settings.outputPath
      bytes directory location)
    (occupied : files.isDirectory place settings.outputPath = .ok true) :
    (TypesFile.write files place temporary true table
      settings.outputPath).result =
        .error (.types ⟨settings.outputPath, .notWritten .isDirectory⟩) := by
  obtain ⟨created, success⟩ := staged.created
  have free := FileSystem.free_of_create success
  have same : files.SameDirectories (files.publish location bytes) :=
    FileSystem.sameDirectories_put_file (by simp [free]) _ _
  have refused := FileSystem.landing_of_directory opens.accepted
    (same.enter opens.entered) (Settings.getLast?_outputPath settings)
    opens.admitted ((same _).mp (opens.isDirectory_iff.mp occupied))
  rw [TypesFile.write_of_staged staged]
  simp [TypesFile.settle, FileSystem.rename, refused, TypesFile.failed]

theorem write_of_not_isDirectory {parent : Place} {table : TypeTable}
    {bytes : ByteArray} {directory : Path} {location : Location}
    (opens : OutputDirectory settings files place parent)
    (staged : TypesFile.Staged files place temporary table settings.outputPath
      bytes directory location)
    (vacant : files.isDirectory place settings.outputPath ≠ .ok true) :
    (TypesFile.write files place temporary true table
      settings.outputPath).result = .ok bytes.size := by
  have landing : files.landing place settings.outputPath =
      .ok (parent.child Settings.fileName) :=
    FileSystem.landing_eq_ok_iff.mpr ⟨opens.accepted, parent, _, opens.entered,
      Settings.getLast?_outputPath settings, opens.admitted, rfl,
      mt opens.isDirectory_iff.mpr vacant⟩
  rw [TypesFile.write_of_landing staged landing]

/-- A run that has collected its table and can put its output somewhere fails
only if the table has no document or a directory stands in the place of the
output. -/
theorem result_of_collect {parent : Place} {table : TypeTable}
    (opens : OutputDirectory settings files place parent)
    (start : TypesFile.HasStart files place settings.outputPath)
    (pick : TypesFile.MayPick files place settings.outputPath temporary)
    (short : ∀ directory,
      TypesFile.stagingDirectory? place settings.outputPath = some directory →
        (directory.join (.ofText temporary)).isTooLong = false)
    (collected : (collect settings files place).2 = .ok table) :
    (aggregate settings files place temporary).result =
      match TypesFile.encode table,
        files.isDirectory place settings.outputPath with
      | .error defect, _ =>
          .error (.types ⟨settings.outputPath, .unserializable defect⟩)
      | .ok _, .ok true =>
          .error (.types ⟨settings.outputPath, .notWritten .isDirectory⟩)
      | .ok _, _ => .ok settings.outputPath := by
  rw [result_aggregate, collected]
  cases encoded : TypesFile.encode table with
  | error defect => simp [TypesFile.write, encoded, TypesFile.failed, Except.map]
  | ok bytes =>
      obtain ⟨directory, location, staged⟩ :=
        exists_staged opens start pick short encoded
      cases answer : files.isDirectory place settings.outputPath with
      | error cause =>
          have written := write_of_not_isDirectory opens staged
            (by simp [answer])
          simp [written, Except.map]
      | ok isDirectory =>
          cases isDirectory with
          | true =>
              simp [write_of_isDirectory opens staged answer, Except.map]
          | false =>
              have written := write_of_not_isDirectory opens staged
                (by simp [answer])
              simp [written, Except.map]

/-- A run over some pallets succeeds if and only if they can be collected, the
merged table has a document, and no directory stands in the place of the
output; and once the pallets have been collected, it fails for no other
reason. -/
theorem aggregate_succeeds_iff (settings : Settings) (files : FileSystem)
    (place : Place) (temporary : Text) (nonempty : settings.pallets ≠ [])
    (here : settings.baseDir.root = .relative → place.Exists files)
    (pick : TypesFile.MayPick files place settings.outputPath temporary)
    (short : settings.outputPath.isTooLong = false)
    (shortTemporary : ∀ directory,
      TypesFile.stagingDirectory? place settings.outputPath = some directory →
        (directory.join (.ofText temporary)).isTooLong = false) :
    let run := aggregate settings files place temporary
    ((∃ path, run.result = .ok path) ↔
      ∃ table bytes, (collect settings files place).2 = .ok table ∧
        TypesFile.encode table = .ok bytes ∧
        files.isDirectory place settings.outputPath ≠ .ok true) ∧
    ∀ table failure, (collect settings files place).2 = .ok table →
      run.result = .error failure →
        (∃ defect, TypesFile.encode table = .error defect ∧
          failure = .types ⟨settings.outputPath, .unserializable defect⟩) ∨
        files.isDirectory place settings.outputPath = .ok true ∧
          failure = .types ⟨settings.outputPath, .notWritten .isDirectory⟩ := by
  intro run
  have start : TypesFile.HasStart files place settings.outputPath :=
    fun relative => here (Settings.root_outputPath settings ▸ relative)
  cases collected : (collect settings files place).2 with
  | error cause =>
      have failed : run.result = .error cause := by
        simp only [run, result_aggregate, collected]
      simp [failed]
  | ok table =>
      obtain ⟨pallet, listed⟩ := List.exists_mem_of_ne_nil _ nonempty
      obtain ⟨parent, opens⟩ := exists_outputDirectory
        (isReadable_of_collect collected pallet listed) start short
      have result : run.result = _ :=
        result_of_collect opens start pick shortTemporary collected
      cases encoded : TypesFile.encode table with
      | error defect =>
          simp only [encoded] at result
          simp [result, encoded]
      | ok bytes =>
          cases answer : files.isDirectory place settings.outputPath with
          | error cause =>
              simp only [encoded, answer] at result
              simp [result, encoded]
          | ok isDirectory =>
              cases isDirectory <;> simp only [encoded, answer] at result <;>
                simp [result, encoded]

end

/-- One pallet, whose name goes through the directory of another. -/
def detour (baseDir : Text) : Settings :=
  { baseDir := .ofText baseDir
    pallets := ["a/../b"]
    runtimeTypes := Settings.defaultRuntimeTypes
    customTypes := Settings.defaultCustomTypes
    logging := {} }

def detourFiles : FileSystem :=
  ⟨[(["scripts"], .directory), (["pallets"], .directory),
    (["pallets", "a"], .directory), (["pallets", "b"], .directory),
    (["pallets", "b", "types.json"],
      .file FileSystem.publicMode "\x7b\"X\":1\x7d".toUTF8)]⟩

def detourTables : List (Text × TypeTable) :=
  [("a/../b", .ofPairs [("X", .int 1)])]

theorem collect_detour {baseDir : Text} {place : Place}
    (read : detourFiles.read place ((detour baseDir).palletPath "a/../b") =
      .ok "\x7b\"X\":1\x7d".toUTF8) :
    (collect (detour baseDir) detourFiles place).2 =
      .ok (merged (detour "") detourTables) := by
  have loaded : TypesFile.load detourFiles place
      ((detour baseDir).palletPath "a/../b") = .ok (.ofPairs [("X", .int 1)]) :=
    TypesFile.load_eq_ok_iff.mpr ⟨_, read, TypesFile.decode_toUTF8 (by rfl)⟩
  have loading : loadAll (detour baseDir) detourFiles place ["a/../b"] =
      .ok detourTables :=
    loadAll_eq_ok_iff.mpr ⟨rfl, by simpa [detourTables] using loaded⟩
  rw [collect_result]
  exact congrArg (Except.map _) loading

theorem encode_detour :
    TypesFile.encode (merged (detour "") detourTables) =
      .ok (TypesFile.document (merged (detour "") detourTables)) :=
  TypesFile.encode_eq_ok_iff.mpr ⟨by decide, rfl⟩

theorem aggregate_succeeds_detour :
    ∃ path, (aggregate (detour "") detourFiles ⟨["scripts"], 0⟩
      (TypesFile.temporaryName "00000000")).result = .ok path := by
  have exist : Place.Exists detourFiles ⟨["scripts"], 0⟩ :=
    ⟨by decide, by unfold Place.IsNameable CodePoint.IsUnfit; decide,
      by decide, by rfl⟩
  have staging : TypesFile.stagingDirectory? ⟨["scripts"], 0⟩
      (detour "").outputPath = some (.ofText "/") := by decide
  have entered : detourFiles.enter .top (.ofText "/") = .ok .top := by rfl
  have pick : TypesFile.MayPick detourFiles ⟨["scripts"], 0⟩
      (detour "").outputPath (TypesFile.temporaryName "00000000") :=
    TypesFile.mayPick_of_vacant staging (by decide) entered rfl
      ⟨"00000000".toList, by decide, by decide, rfl⟩ (by rfl)
  have succeeds := aggregate_succeeds_iff (detour "") detourFiles
    ⟨["scripts"], 0⟩ (TypesFile.temporaryName "00000000") (by decide)
    (fun _ => exist) pick (by decide)
    (fun directory found => by
      cases staging.symm.trans found
      decide)
  exact succeeds.1.mpr ⟨_, _, collect_detour (by rfl), encode_detour,
    fun occupied => nomatch occupied⟩

/-- In a working directory that has been removed the pallets can be read by
way of `..`, but there is no directory for the temporary file. -/
theorem aggregate_fails_removed :
    ¬((∃ path, (aggregate (detour "..") detourFiles ⟨["scripts"], 1⟩
          (TypesFile.temporaryName "00000000")).result = .ok path) ↔
        ∃ table bytes,
          (collect (detour "..") detourFiles ⟨["scripts"], 1⟩).2 = .ok table ∧
          TypesFile.encode table = .ok bytes ∧
          detourFiles.isDirectory ⟨["scripts"], 1⟩ (detour "..").outputPath ≠
            .ok true) ∧
      (aggregate (detour "..") detourFiles ⟨["scripts"], 1⟩
          (TypesFile.temporaryName "00000000")).result =
        .error (.types ⟨(detour "..").outputPath, .notCreated .missing⟩) := by
  have collected : (collect (detour "..") detourFiles ⟨["scripts"], 1⟩).2 = _ :=
    collect_detour (by rfl)
  have refused : (aggregate (detour "..") detourFiles ⟨["scripts"], 1⟩
      (TypesFile.temporaryName "00000000")).result =
        .error (.types ⟨(detour "..").outputPath, .notCreated .missing⟩) := by
    rw [result_aggregate, collected]
    simp only [TypesFile.write, encode_detour]
    rfl
  have vacant : detourFiles.isDirectory ⟨["scripts"], 1⟩
      (detour "..").outputPath ≠ .ok true := by
    intro occupied
    cases occupied
  refine ⟨fun equivalence => ?_, refused⟩
  obtain ⟨path, succeeded⟩ :=
    equivalence.mpr ⟨_, _, collected, encode_detour, vacant⟩
  rw [refused] at succeeded
  cases succeeded

end PalletTypes.Aggregation
