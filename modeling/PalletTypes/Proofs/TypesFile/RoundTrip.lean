import PalletTypes.Proofs.Json.Rereading
import PalletTypes.Proofs.TypesFile.Document
import PalletTypes.Proofs.TypesFile.Endings
import PalletTypes.Proofs.TypesFile.Loading

/-!
# Reading back what was written

A table that has been written is read back with all its keys in order and all
its values, but for the numbers that are not finite, which come back as null.
Writing the table that was read back gives the same bytes.
-/

namespace PalletTypes.TypesFile

theorem document_onFile (table : TypeTable) :
    document table.onFile = document table := by
  rw [document, TypeTable.toValue_onFile, Json.layout_onFile]
  rfl

theorem encode_onFile (table : TypeTable) :
    encode table.onFile = encode table := by
  rw [encode_eq, encode_eq, document_onFile, TypeTable.toValue_onFile,
    Json.defect?_onFile]

/-- A document is decoded to what a file keeps of its table. -/
theorem decode_document {table : TypeTable} {bytes : ByteArray}
    (distinct : table.hasDistinctKeys = true)
    (encoded : encode table = .ok bytes) :
    decode bytes = .ok table.onFile := by
  obtain ⟨sound, rfl⟩ := encode_eq_ok_iff.mp encoded
  have distinctValue := TypeTable.hasDistinctKeys_toValue distinct
  have read : Json.ofChars? (Json.layout 0 table.toValue) =
      some (.mapping table.onFile.entries) := by
    rw [Json.ofChars?_layout sound distinctValue, ← TypeTable.toValue_onFile]
    rfl
  rw [document, decode_toUTF8 (by rw [String.toList_ofList]; exact read),
    TypeTable.ofPairs_entries]

/-- A successful writing leaves the document of the table in the file. -/
theorem read_of_write {files : FileSystem} {place : Place} {temporary : Text}
    {removable : Bool} {table : TypeTable} {path : Path} {count : Nat}
    (written : (write files place temporary removable table path).result =
      .ok count) :
    ∃ bytes, encode table = .ok bytes ∧ bytes.size = count ∧
      (write files place temporary removable table path).files.read place
        path = .ok bytes := by
  have ending := ending_write files place temporary removable table path
  generalize write files place temporary removable table path = outcome
    at ending written
  cases ending with
  | @landed bytes directory location target staged landing =>
      exact ⟨bytes, staged.encoded, Except.ok.inj written,
        FileSystem.read_put_of_landing landing _ bytes⟩
  | _ => exact nomatch written

/-- A table that has been written is read back as it was, but for the numbers
that are not finite, and is written again with the same bytes. -/
theorem load_of_write {files : FileSystem} {place : Place} {temporary : Text}
    {removable : Bool} {table : TypeTable} {path : Path} {count : Nat}
    (distinct : table.hasDistinctKeys = true)
    (written : (write files place temporary removable table path).result =
      .ok count) :
    load (write files place temporary removable table path).files place path =
        .ok table.onFile ∧
      ∃ bytes, (write files place temporary removable table path).files.read
          place path = .ok bytes ∧
        encode table.onFile = .ok bytes ∧ bytes.size = count := by
  obtain ⟨bytes, encoded, size, read⟩ := read_of_write written
  refine ⟨load_eq_ok_iff.mpr ⟨bytes, read, decode_document distinct encoded⟩,
    bytes, read, ?_, size⟩
  rw [encode_onFile, encoded]

/-- A table with a number that is not finite, an integer beside a number that
only looks like one, a negative zero, empty containers and texts to escape. -/
def variedTable : TypeTable :=
  .ofPairs
    [("Limit", .float (.infinity true)),
      ("Zero", .list
        [.int 0, .float .zero,
          .float { Binary64.zero with negative := true }]),
      ("Call", .mapping
        [("_enum", .mapping [("b\n", .list []), ("a\"", .null)]),
          ("_set", .mapping [])])]

theorem load_of_write_variedTable :
    ∃ count,
      (write ⟨[(["out"], .directory)]⟩ ⟨["out"], 0⟩
        (temporaryName "00000000") true variedTable
        (.ofText "types.json")).result = .ok count ∧
      load (write ⟨[(["out"], .directory)]⟩ ⟨["out"], 0⟩
          (temporaryName "00000000") true variedTable
          (.ofText "types.json")).files ⟨["out"], 0⟩ (.ofText "types.json") =
        .ok variedTable.onFile := by
  have created : ∃ location created,
      FileSystem.create ⟨[(["out"], .directory)]⟩ .top (.ofText "/out")
        (temporaryName "00000000") = .ok (location, created) := by
    simp only [FileSystem.create_eq_ok_iff]
    exact ⟨_, _, by decide, ⟨["out"], 0⟩, rfl,
      by unfold Place.Admits; decide, rfl, by rfl, rfl⟩
  obtain ⟨location, created, success⟩ := created
  have staged : Staged ⟨[(["out"], .directory)]⟩ ⟨["out"], 0⟩
      (temporaryName "00000000") variedTable (.ofText "types.json")
      (document variedTable) (.ofText "/out") location :=
    ⟨encode_eq_ok_iff.mpr ⟨by decide, rfl⟩, by decide, created, success⟩
  have landing : FileSystem.landing ⟨[(["out"], .directory)]⟩ ⟨["out"], 0⟩
      (.ofText "types.json") = .ok ["out", "types.json"] := by rfl
  have written := congrArg Outcome.result
    (write_of_landing staged landing true)
  exact ⟨_, written, (load_of_write (by decide) written).1⟩

end PalletTypes.TypesFile
