import PalletTypes.Proofs.Aggregation.FeedingBack

/-!
# Running again

A run that is repeated on the file system it has left succeeds and changes
nothing.  A pallet whose types file is the output itself is read with the
merged table the second time, as a file keeps it, at whatever places of the
list such pallets stand; all other files are read as before.

The tables of the settings are mappings at every depth, so they repeat no key,
and a temporary name is always one that is free.
-/

namespace PalletTypes

namespace Aggregation

section

variable {settings : Settings} {files : FileSystem} {place : Place}

/-- A run that is repeated on the file system it has left succeeds and leaves
it as it is, the bytes of the output included. -/
theorem aggregate_again {first second : Text} {path : Path}
    (runtime : settings.runtimeTypes.hasDistinctKeys = true)
    (custom : settings.customTypes.hasDistinctKeys = true)
    (isTemporary : TypesFile.IsTemporaryName first)
    (succeeded : (aggregate settings files place first).result = .ok path)
    (pick : TypesFile.MayPick (aggregate settings files place first).files
      place settings.outputPath second) :
    let once := aggregate settings files place first
    let twice := aggregate settings once.files place second
    twice.result = .ok path ∧ twice.files = once.files ∧
      ∃ bytes, once.files.read place path = .ok bytes ∧
        twice.files.read place path = .ok bytes := by
  intro once twice
  obtain ⟨loaded, bytes, directory, location, target, landed⟩ :=
    landed_of_result succeeded
  obtain ⟨onceFiles, onceResult⟩ := aggregate_of_landed landed
  have isOutput : path = settings.outputPath := by
    rw [succeeded] at onceResult
    exact Except.ok.inj onceResult
  rw [onceFiles] at pick
  obtain ⟨refreshed, locationAgain, landedAgain⟩ :=
    landed_extended runtime custom isTemporary landed (.refl bytes _)
      (.refl _ settings.pallets) pick
  have again : twice = aggregate settings (files.publish target bytes) place
      second := by
    rw [← onceFiles]
  obtain ⟨twiceFiles, twiceResult⟩ := aggregate_of_landed landedAgain
  have sameFiles : twice.files = once.files := by
    rw [again, twiceFiles, onceFiles]
    exact FileSystem.put_put _ _ _ _
  have read : once.files.read place path = .ok bytes := by
    rw [onceFiles, isOutput]
    exact FileSystem.read_put_of_landing landed.landing _ bytes
  refine ⟨?_, sameFiles, bytes, read, ?_⟩
  · rw [again, twiceResult, isOutput]
  · rw [sameFiles, read]

end

/-- Settings whose first and last pallet is the output itself, with a number
in the seeds that a file cannot keep. -/
def selfReading : Settings :=
  { baseDir := .ofText "."
    pallets := ["..", "a", ".."]
    runtimeTypes := .ofPairs [("Rate", .float .undefined), ("X", .null)]
    customTypes := .empty
    logging := {} }

def selfReadingFiles : FileSystem :=
  ⟨[(["scripts"], .directory), (["pallets"], .directory),
    (["pallets", "a"], .directory),
    (["pallets", "a", "types.json"],
      .file FileSystem.publicMode "\x7b\"X\":1,\"Y\":[]\x7d".toUTF8),
    (["types.json"],
      .file FileSystem.publicMode "\x7b\"Z\":\"u8\",\"X\":0\x7d".toUTF8)]⟩

def selfReadingTables : List (Text × TypeTable) :=
  [("..", .ofPairs [("Z", .text "u8"), ("X", .int 0)]),
    ("a", .ofPairs [("X", .int 1), ("Y", .list [])]),
    ("..", .ofPairs [("Z", .text "u8"), ("X", .int 0)])]

/-- The first run lands on the file that its pallets are read from. -/
theorem landed_selfReading :
    ∃ location, Landed selfReading selfReadingFiles ⟨["scripts"], 0⟩
      (TypesFile.temporaryName "abcd_012") selfReadingTables
      (TypesFile.document (merged selfReading selfReadingTables))
      (.ofText "/") location ["types.json"] := by
  have old : TypesFile.load selfReadingFiles ⟨["scripts"], 0⟩
      (selfReading.palletPath "..") =
        .ok (.ofPairs [("Z", .text "u8"), ("X", .int 0)]) :=
    TypesFile.load_eq_ok_iff.mpr
      ⟨_, by rfl, TypesFile.decode_toUTF8 (by rfl)⟩
  have pallet : TypesFile.load selfReadingFiles ⟨["scripts"], 0⟩
      (selfReading.palletPath "a") =
        .ok (.ofPairs [("X", .int 1), ("Y", .list [])]) :=
    TypesFile.load_eq_ok_iff.mpr
      ⟨_, by rfl, TypesFile.decode_toUTF8 (by rfl)⟩
  have loading : loadAll selfReading selfReadingFiles ⟨["scripts"], 0⟩
      selfReading.pallets = .ok selfReadingTables := by
    refine loadAll_eq_ok_iff.mpr ⟨rfl, ?_⟩
    simp only [selfReadingTables, List.forall_mem_cons]
    exact ⟨old, pallet, old, fun source member => nomatch member⟩
  have created : ∃ location created,
      selfReadingFiles.create .top (.ofText "/")
        (TypesFile.temporaryName "abcd_012") = .ok (location, created) := by
    simp only [FileSystem.create_eq_ok_iff]
    exact ⟨_, _, by decide, ⟨[], 0⟩, rfl, by unfold Place.Admits; decide, rfl,
      by rfl, rfl⟩
  obtain ⟨location, created, success⟩ := created
  exact ⟨location, loading,
    ⟨TypesFile.encode_eq_ok_iff.mpr ⟨by decide, rfl⟩, by decide, created,
      success⟩, by rfl⟩

theorem aggregate_again_selfReading :
    ∃ path bytes,
      let once := aggregate selfReading selfReadingFiles ⟨["scripts"], 0⟩
        (TypesFile.temporaryName "abcd_012")
      let twice := aggregate selfReading once.files ⟨["scripts"], 0⟩
        (TypesFile.temporaryName "z9z9z9z9")
      once.result = .ok path ∧ twice.result = .ok path ∧
        once.files.read ⟨["scripts"], 0⟩ path = .ok bytes ∧
        twice.files.read ⟨["scripts"], 0⟩ path = .ok bytes := by
  obtain ⟨location, landed⟩ := landed_selfReading
  obtain ⟨filesAfter, succeeded⟩ := aggregate_of_landed landed
  have free : ((aggregate selfReading selfReadingFiles ⟨["scripts"], 0⟩
      (TypesFile.temporaryName "abcd_012")).files).create .top (.ofText "/")
        (TypesFile.temporaryName "z9z9z9z9") ≠
          .error (.refused .alreadyExists) := by
    have created : ∃ pair, (selfReadingFiles.publish ["types.json"]
        (TypesFile.document (merged selfReading selfReadingTables))).create
          .top (.ofText "/") (TypesFile.temporaryName "z9z9z9z9") =
            .ok pair := by
      refine ⟨⟨_, _⟩, FileSystem.create_eq_ok_iff.mpr ⟨by decide, ⟨[], 0⟩, rfl,
        by unfold Place.Admits; decide, rfl, ?_, rfl⟩⟩
      rw [FileSystem.node?_publish (by decide), if_neg (by decide)]
      rfl
    obtain ⟨pair, success⟩ := created
    rw [filesAfter, success]
    exact fun refused => nomatch refused
  have pick : TypesFile.MayPick (aggregate selfReading selfReadingFiles
      ⟨["scripts"], 0⟩ (TypesFile.temporaryName "abcd_012")).files
      ⟨["scripts"], 0⟩ selfReading.outputPath
      (TypesFile.temporaryName "z9z9z9z9") := by
    refine ⟨⟨"z9z9z9z9".toList, by decide, by decide, rfl⟩, ?_⟩
    intro directory staging
    have isTop : directory = .ofText "/" := by
      have known : TypesFile.stagingDirectory? ⟨["scripts"], 0⟩
          selfReading.outputPath = some (.ofText "/") := by decide
      exact Option.some.inj (staging.symm.trans known)
    rw [isTop]
    exact free
  obtain ⟨again, _, bytes, read, readAgain⟩ := aggregate_again
    (by decide) (by decide)
    ⟨"abcd_012".toList, by decide, by decide, rfl⟩ succeeded pick
  exact ⟨_, bytes, succeeded, again, read, readAgain⟩

end Aggregation

end PalletTypes
