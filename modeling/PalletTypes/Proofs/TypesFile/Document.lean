import PalletTypes.Proofs.Json.Layout
import PalletTypes.TypesFile.Read
import PalletTypes.TypesFile.Write

/-!
# The document of a table

A table without a defect has one document: its layout in UTF-8.
-/

namespace PalletTypes.TypesFile

/-- The layout of a table in UTF-8. -/
def document (table : TypeTable) : ByteArray :=
  (String.ofList (Json.layout 0 table.toValue)).toUTF8

theorem encode_eq (table : TypeTable) :
    encode table =
      match Json.defect? 0 table.toValue with
      | some defect => .error defect
      | none => .ok (document table) := by
  have written := Json.toList_appendChars "" (Json.layout 0 table.toValue)
  have whole : Json.appendChars "" (Json.layout 0 table.toValue) =
      String.ofList (Json.layout 0 table.toValue) := by
    apply String.toList_inj.mp
    simpa using written
  rw [encode, Json.ofTable_eq]
  cases Json.defect? 0 table.toValue with
  | some defect => rfl
  | none => simp [Json.writtenAs, whole, document, Except.map]

theorem encode_eq_ok_iff {table : TypeTable} {bytes : ByteArray} :
    encode table = .ok bytes ↔
      Json.defect? 0 table.toValue = none ∧ document table = bytes := by
  rw [encode_eq]
  cases Json.defect? 0 table.toValue <;> simp

theorem ofBytes?_toUTF8 (string : String) :
    Json.ofBytes? string.toUTF8 = Json.ofChars? string.toList := by
  have valid : string.toUTF8.IsValidUTF8 := string.isValidUTF8
  have decoded : String.fromUTF8? string.toUTF8 = some string := by
    rw [String.fromUTF8?, dif_pos valid]
    rfl
  rw [Json.ofBytes?, decoded, Option.bind_some]

/-- A document whose characters are read as a mapping decodes to its table. -/
theorem decode_toUTF8 {string : String} {entries : List (Text × Value)}
    (read : Json.ofChars? string.toList = some (.mapping entries)) :
    decode string.toUTF8 = .ok (.ofPairs entries) := by
  rw [decode, ofBytes?_toUTF8, read]

end PalletTypes.TypesFile
