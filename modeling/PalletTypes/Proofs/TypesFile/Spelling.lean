import PalletTypes.Proofs.Json.Tree
import PalletTypes.Proofs.Merge
import PalletTypes.Proofs.TypesFile.Document
import PalletTypes.Proofs.TypesFile.Loading

/-!
# Types files as they are spelled

What is loaded from a file is told by the tree that its characters spell.  If
this is a mapping, its members may repeat keys, in one spelling or in several;
the table is that of all members in their order.
-/

namespace PalletTypes

namespace Json.Tree

/-- Two lists of members are read as the same keys and values in the same
order, with the same repetitions, however they are spelled. -/
def SameMembers (left right : List (List Char × Tree)) : Prop :=
  pairs? left = pairs? right

theorem SameMembers.append {left right : List (List Char × Tree)}
    (same : SameMembers left right) (rest : List (List Char × Tree)) :
    SameMembers (left ++ rest) (right ++ rest) := by
  rw [SameMembers, pairs?_append, pairs?_append, same]

end Json.Tree

namespace TypesFile

section

variable {files : FileSystem} {place : Place} {path : Path}
  {table : TypeTable}

/-- A file that spells a tree is loaded if the tree is a mapping and is not
nested too deeply for the reader. -/
theorem load_eq_ok_iff_of_spells {string : String} {tree : Json.Tree}
    (contents : files.read place path = .ok string.toUTF8)
    (spelled : Json.Spells string.toList tree) :
    load files place path = .ok table ↔
      tree.nesting ≤ Json.readingDepth ∧
        ∃ entries, tree.value? = some (.mapping entries) ∧
          table = .ofPairs entries := by
  have decoding : load files place path = .ok table ↔
      decode string.toUTF8 = .ok table := by
    rw [load_eq_ok_iff, contents]
    simp
  rw [decoding, decode_eq_ok_iff, ofBytes?_toUTF8,
    Json.ofChars?_of_spells spelled]
  simp only [Json.within_eq_some_iff, and_assoc, exists_and_left]

/-- The file at a path spells a mapping with these members. -/
def HoldsMembers (files : FileSystem) (place : Place) (path : Path)
    (members : List (List Char × Json.Tree)) : Prop :=
  ∃ string : String, files.read place path = .ok string.toUTF8 ∧
    Json.Spells string.toList (.mapping members)

/-- A file that spells a mapping is loaded unless it is nested too deeply or
one of its members has no value; its table is that of all members, with their
repetitions. -/
theorem HoldsMembers.load_eq_ok_iff {members : List (List Char × Json.Tree)}
    (holds : HoldsMembers files place path members) :
    load files place path = .ok table ↔
      (Json.Tree.mapping members).nesting ≤ Json.readingDepth ∧
        ∃ pairs, Json.Tree.pairs? members = some pairs ∧
          table = .ofPairs pairs := by
  obtain ⟨string, contents, spelled⟩ := holds
  -- The reader has dropped the repetitions; for the table this is all the same.
  have again : ∀ pairs : List (Text × Value),
      TypeTable.ofPairs (Entries.ofPairs pairs) = .ofPairs pairs :=
    fun pairs => TypeTable.ofPairs_entries (.ofPairs pairs)
  rw [load_eq_ok_iff_of_spells contents spelled, Json.Tree.value?]
  simp only [Option.map_eq_some_iff, Value.mapping.injEq]
  constructor
  · rintro ⟨inside, _, ⟨pairs, known, rfl⟩, rfl⟩
    exact ⟨inside, pairs, known, again pairs⟩
  · rintro ⟨inside, pairs, known, rfl⟩
    exact ⟨inside, _, ⟨pairs, known, rfl⟩, (again pairs).symm⟩

end

end TypesFile

end PalletTypes
