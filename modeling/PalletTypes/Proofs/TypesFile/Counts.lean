import PalletTypes.Proofs.Json.Conformance
import PalletTypes.Proofs.Occurrences
import PalletTypes.Proofs.TypesFile.Readings
import PalletTypes.Proofs.TypesFile.RoundTrip

/-!
# How many keys a types file holds

A reading and a writing count what they have read or written.  Their counts
are those of the file: the keys of its object without repetitions, and its
bytes.  For a file that has been written this needs no condition on the table,
since what is written is a document in any case.
-/

namespace PalletTypes.TypesFile

/-- The file at a path holds an object with so many different keys. -/
def HoldsKeys (files : FileSystem) (place : Place) (path : Path)
    (count : Nat) : Prop :=
  ∃ bytes pairs, files.read place path = .ok bytes ∧
    Json.IsObject bytes pairs ∧ (Entries.keys pairs).toFinset.card = count

section

variable {files : FileSystem} {place : Place} {path : Path} {count : Nat}
  {table : TypeTable}

theorem size_of_leaves {pairs : List (Text × Value)}
    (left : Json.Leaves pairs table.entries) :
    table.size = (Entries.keys pairs).toFinset.card := by
  have names : table.names = firstOccurrences (Entries.keys pairs) :=
    left.places
  rw [← TypeTable.length_names, names, length_firstOccurrences]

/-- The number of keys in a file is that of the table that is loaded from
it. -/
theorem holdsKeys_iff :
    HoldsKeys files place path count ↔
      ∃ table, load files place path = .ok table ∧ table.size = count := by
  simp only [load_eq_ok_iff_isObject]
  constructor
  · rintro ⟨bytes, pairs, contents, object, rfl⟩
    have left : Json.Leaves pairs (TypeTable.ofPairs pairs).entries :=
      Json.leaves_ofPairs pairs
    exact ⟨_, ⟨bytes, pairs, contents, object, left⟩, size_of_leaves left⟩
  · rintro ⟨table, ⟨bytes, pairs, contents, object, left⟩, rfl⟩
    exact ⟨bytes, pairs, contents, object, (size_of_leaves left).symm⟩

theorem holdsKeys_of_load (loaded : load files place path = .ok table) :
    HoldsKeys files place path table.size :=
  holdsKeys_iff.mpr ⟨table, loaded, rfl⟩

/-- A file holds one number of keys at most. -/
theorem HoldsKeys.unique {other : Nat}
    (holds : HoldsKeys files place path count)
    (same : HoldsKeys files place path other) : count = other := by
  obtain ⟨table, loaded, rfl⟩ := holdsKeys_iff.mp holds
  obtain ⟨again, reloaded, rfl⟩ := holdsKeys_iff.mp same
  rw [loaded, Except.ok.injEq] at reloaded
  rw [reloaded]

/-- What is written for a table is decoded to a table with the same names, also
where a definition repeats a key. -/
theorem exists_decode_of_encode {bytes : ByteArray}
    (encoded : encode table = .ok bytes) :
    ∃ kept, decode bytes = .ok kept ∧ kept.names = table.names := by
  obtain ⟨sound, rfl⟩ := encode_eq_ok_iff.mp encoded
  obtain ⟨pairs, sameKeys, read⟩ := Json.ofChars?_layout_mapping sound
  refine ⟨.ofPairs (Entries.ofPairs pairs), decode_toUTF8 ?_, ?_⟩
  · rw [String.toList_ofList]
    exact read
  · have distinct : (Entries.keys pairs).Nodup := sameKeys ▸ table.distinct
    calc Entries.keys (Entries.ofPairs (Entries.ofPairs pairs))
        = firstOccurrences (firstOccurrences (Entries.keys pairs)) := by
          rw [Entries.keys_ofPairs, Entries.keys_ofPairs]
      _ = Entries.keys pairs := by
          rw [firstOccurrences_of_nodup distinct,
            firstOccurrences_of_nodup distinct]
      _ = table.names := sameKeys

/-- A file that has been written holds the keys of the table, and its size is
the number that the writing gives. -/
theorem holdsKeys_of_write {temporary : Text} {removable : Bool}
    (written : (write files place temporary removable table path).result =
      .ok count) :
    HoldsKeys (write files place temporary removable table path).files place
      path table.size := by
  obtain ⟨bytes, encoded, -, contents⟩ := read_of_write written
  obtain ⟨kept, decoded, sameNames⟩ := exists_decode_of_encode encoded
  refine holdsKeys_iff.mpr
    ⟨kept, load_eq_ok_iff.mpr ⟨bytes, contents, decoded⟩, ?_⟩
  rw [← TypeTable.length_names, sameNames, TypeTable.length_names]

end

/-- A writing that fails says nothing, and one that succeeds tells the size of
the file. -/
theorem records_write (files : FileSystem) (place : Place) (temporary : Text)
    (table : TypeTable) (path : Path) :
    let written := write files place temporary true table path
    (∃ failure, written.result = .error failure ∧ written.records = []) ∨
      ∃ bytes, written.result = .ok bytes.size ∧
        written.files.read place path = .ok bytes ∧
        written.records = [writtenRecord bytes path] := by
  intro written
  have ending : Ending files place temporary true table path written :=
    ending_write files place temporary true table path
  clear_value written
  cases ending with
  | landed staged landing =>
      exact .inr ⟨_, rfl, FileSystem.read_put_of_landing landing _ _, rfl⟩
  | leftover staged refused kept => exact nomatch kept
  | _ => exact .inl ⟨_, rfl, rfl⟩

end PalletTypes.TypesFile
