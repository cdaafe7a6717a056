import PalletTypes.Proofs.Json.DistinctKeys
import PalletTypes.Proofs.FileSystem.Walking
import PalletTypes.Proofs.Value.Storable
import PalletTypes.TypesFile.Read

/-!
# How a reading ends

A types file is read from its bytes, or the reading fails because of the file
or because of its path.
-/

namespace PalletTypes.TypesFile

/-- A document is decoded if it is a mapping. -/
theorem decode_eq_ok_iff {bytes : ByteArray} {table : TypeTable} :
    decode bytes = .ok table ↔
      ∃ entries, Json.ofBytes? bytes = some (.mapping entries) ∧
        table = .ofPairs entries := by
  unfold decode
  cases Json.ofBytes? bytes with
  | none => simp
  | some value => cases value <;> simp [eq_comm]

/-- A table is read from the bytes of its file. -/
theorem load_eq_ok_iff {files : FileSystem} {place : Place} {path : Path}
    {table : TypeTable} :
    load files place path = .ok table ↔
      ∃ bytes, files.read place path = .ok bytes ∧ decode bytes = .ok table := by
  unfold load
  cases files.read place path with
  | error error => cases error <;> simp
  | ok bytes =>
      cases decoded : decode bytes with
      | error reason => simp [decoded]
      | ok other => simp [decoded]

/-- A failed reading blames its own path, or ends because that path has a
defect. -/
theorem load_failure {files : FileSystem} {place : Place} {path : Path}
    {failure : Failure} (failed : load files place path = .error failure) :
    (∃ reason, failure = .types ⟨path, reason⟩) ∨
      ∃ defect, path.defect? = some defect ∧ failure = .defective defect := by
  unfold load at failed
  cases contents : files.read place path with
  | error error =>
      cases error with
      | defective defect =>
          simp only [contents, Except.error.injEq] at failed
          have spoiled := FileSystem.read_eq_defective_iff.mp contents
          exact Or.inr ⟨defect, spoiled, failed.symm⟩
      | refused cause =>
          simp only [contents, Except.error.injEq] at failed
          exact Or.inl ⟨_, failed.symm⟩
  | ok bytes =>
      cases decoded : decode bytes with
      | error reason =>
          simp only [contents, decoded, Except.error.injEq] at failed
          exact Or.inl ⟨_, failed.symm⟩
      | ok table => simp [contents, decoded] at failed

theorem load_of_defect {path : Path} {defect : PathDefect}
    (spoiled : path.defect? = some defect) (files : FileSystem)
    (place : Place) :
    load files place path = .error (.defective defect) := by
  have refused := Path.refusal?_eq_defective_iff.mpr spoiled
  simp [load, FileSystem.read, refused]

/-- What is loaded is the table of a mapping that has been read. -/
theorem exists_mapping_of_load {files : FileSystem} {place : Place}
    {path : Path} {table : TypeTable}
    (loaded : load files place path = .ok table) :
    ∃ bytes entries, Json.ofBytes? bytes = some (.mapping entries) ∧
      table = .ofPairs entries := by
  obtain ⟨bytes, _, decoded⟩ := load_eq_ok_iff.mp loaded
  obtain ⟨entries, read, same⟩ := decode_eq_ok_iff.mp decoded
  exact ⟨bytes, entries, read, same⟩

/-- A table that is read repeats no key in any of its definitions. -/
theorem hasDistinctKeys_of_load {files : FileSystem} {place : Place}
    {path : Path} {table : TypeTable}
    (loaded : load files place path = .ok table) :
    table.hasDistinctKeys = true := by
  obtain ⟨bytes, entries, read, rfl⟩ := exists_mapping_of_load loaded
  have distinct := Json.hasDistinctKeys_ofBytes? read
  rw [Value.hasDistinctKeys_mapping_iff] at distinct
  exact TypeTable.hasDistinctKeys_ofPairs distinct.2

theorem isStorable_of_load {files : FileSystem} {place : Place}
    {path : Path} {table : TypeTable}
    (loaded : load files place path = .ok table) :
    table.isStorable = true := by
  obtain ⟨bytes, entries, read, rfl⟩ := exists_mapping_of_load loaded
  exact TypeTable.isStorable_ofPairs (Json.isStorable_ofBytes? read)

end PalletTypes.TypesFile
