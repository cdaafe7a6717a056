import PalletTypes.Proofs.Json.Holding
import PalletTypes.Proofs.Value

/-!
# What is read has distinct keys

A repeated key of a document takes a place that is there already, so no mapping
in a document that is read repeats a key.
-/

namespace PalletTypes.Json

theorem isKept_hasDistinctKeys :
    IsKept fun value => value.hasDistinctKeys = true where
  null := rfl
  bool _ := rfl
  int _ := rfl
  float _ := rfl
  text _ := rfl
  list distinct := Value.itemsHaveDistinctKeys_iff.mpr distinct
  emptyMapping := rfl
  put chars old new := Value.hasDistinctKeys_put (Text.ofChars chars) new old

/-- A document that is read repeats no key in any of its mappings. -/
theorem hasDistinctKeys_ofBytes? {bytes : ByteArray} {value : Value}
    (read : ofBytes? bytes = some value) : value.hasDistinctKeys = true :=
  holds_ofBytes? isKept_hasDistinctKeys read

end PalletTypes.Json
