import PalletTypes.Proofs.Json.Holding
import PalletTypes.Proofs.Value

/-!
# Values that a file can hold

A value is storable if its integers fit a word, its numbers are finite and its
texts and keys hold characters only.  A file keeps such a value as it is, and
everything that is read is storable.
-/

namespace PalletTypes

namespace Value

mutual

/-- No part of the value is beyond what a file can hold. -/
def isStorable : Value → Bool
  | .null => true
  | .bool _ => true
  | .int number => isWordInteger number
  | .float number => decide number.IsFinite
  | .text content => !content.any (·.isSurrogate)
  | .list items => itemsAreStorable items
  | .mapping entries => entriesAreStorable entries

def itemsAreStorable : List Value → Bool
  | [] => true
  | item :: items => item.isStorable && itemsAreStorable items

def entriesAreStorable : List (Text × Value) → Bool
  | [] => true
  | (key, value) :: entries =>
      (!key.any (·.isSurrogate) && value.isStorable) &&
        entriesAreStorable entries

end

mutual

/-- The number of containers around the innermost place of the value. -/
def nesting : Value → Nat
  | .null => 0
  | .bool _ => 0
  | .int _ => 0
  | .float _ => 0
  | .text _ => 0
  | .list items => itemsNesting items + 1
  | .mapping entries => entriesNesting entries + 1

def itemsNesting : List Value → Nat
  | [] => 0
  | item :: items => max item.nesting (itemsNesting items)

def entriesNesting : List (Text × Value) → Nat
  | [] => 0
  | (_, value) :: entries => max value.nesting (entriesNesting entries)

end

theorem itemsAreStorable_iff {items : List Value} :
    itemsAreStorable items = true ↔ ∀ item ∈ items, item.isStorable = true := by
  induction items with
  | nil => simp [itemsAreStorable]
  | cons item items ih => simp [itemsAreStorable, ih]

theorem entriesAreStorable_iff {entries : List (Text × Value)} :
    entriesAreStorable entries = true ↔
      ∀ entry ∈ entries,
        (!entry.1.any (·.isSurrogate) && entry.2.isStorable) = true := by
  induction entries with
  | nil => simp [entriesAreStorable]
  | cons entry entries ih =>
      obtain ⟨key, value⟩ := entry
      rw [entriesAreStorable, Bool.and_eq_true, ih, List.forall_mem_cons]

mutual

/-- A file keeps a storable value as it is. -/
theorem onFile_of_isStorable {value : Value}
    (storable : value.isStorable = true) : value.onFile = value := by
  cases value with
  | null => rfl
  | bool truth => rfl
  | int number => rfl
  | float number =>
      rw [isStorable, decide_eq_true_eq] at storable
      rw [onFile, if_pos storable]
  | text content => rfl
  | list items => rw [onFile, itemsOnFile_of_itemsAreStorable storable]
  | mapping entries =>
      rw [onFile, entriesOnFile_of_entriesAreStorable storable]

theorem itemsOnFile_of_itemsAreStorable {items : List Value}
    (storable : itemsAreStorable items = true) :
    itemsOnFile items = items := by
  cases items with
  | nil => rfl
  | cons item items =>
      rw [itemsAreStorable, Bool.and_eq_true] at storable
      rw [itemsOnFile, onFile_of_isStorable storable.1,
        itemsOnFile_of_itemsAreStorable storable.2]

theorem entriesOnFile_of_entriesAreStorable {entries : List (Text × Value)}
    (storable : entriesAreStorable entries = true) :
    entriesOnFile entries = entries := by
  cases entries with
  | nil => rfl
  | cons entry entries =>
      obtain ⟨key, value⟩ := entry
      rw [entriesAreStorable, Bool.and_eq_true, Bool.and_eq_true] at storable
      rw [entriesOnFile, onFile_of_isStorable storable.1.2,
        entriesOnFile_of_entriesAreStorable storable.2]

end

end Value

namespace Json

open Value

theorem any_isSurrogate_ofChars (chars : List Char) :
    (Text.ofChars chars).any (·.isSurrogate) = false := by
  rw [List.any_eq_false]
  intro point member
  obtain ⟨char, rfl⟩ := Text.isScalar_ofChars chars point member
  simp [CodePoint.isSurrogate]

theorem isKept_isStorable : IsKept fun value => value.isStorable = true where
  null := rfl
  bool _ := rfl
  int word := word
  float finite := decide_eq_true finite
  text chars := by
    rw [isStorable, any_isSurrogate_ofChars]
    rfl
  list storable := itemsAreStorable_iff.mpr storable
  emptyMapping := rfl
  put chars old new := by
    rw [isStorable, entriesAreStorable_iff] at old ⊢
    intro entry member
    rcases Entries.mem_of_mem_put member with rfl | inEntries
    · simp [any_isSurrogate_ofChars, new]
    · exact old entry inEntries

/-- A document that is read can be stored again. -/
theorem isStorable_ofBytes? {bytes : ByteArray} {value : Value}
    (read : ofBytes? bytes = some value) : value.isStorable = true :=
  holds_ofBytes? isKept_isStorable read

end Json

namespace TypeTable

/-- No definition and no name is beyond what a file can hold. -/
def isStorable (table : TypeTable) : Bool :=
  Value.entriesAreStorable table.entries

theorem onFile_of_isStorable {table : TypeTable}
    (storable : table.isStorable = true) : table.onFile = table :=
  TypeTable.ext (Value.entriesOnFile_of_entriesAreStorable storable)

theorem isStorable_ofPairs {pairs : List (Text × Value)}
    (storable : Value.entriesAreStorable pairs = true) :
    (ofPairs pairs).isStorable = true := by
  rw [Value.entriesAreStorable_iff] at storable
  apply Value.entriesAreStorable_iff.mpr
  intro entry member
  rcases Entries.mem_of_mem_putAll member with inEmpty | inPairs
  · exact nomatch inEmpty
  · exact storable entry inPairs

end TypeTable

/-- A merge of storable tables is storable. -/
theorem Merge.isStorable_addAll {sources : List (Text × TypeTable)}
    (storable : ∀ source ∈ sources, source.2.isStorable = true) :
    (Merge.empty.addAll sources).table.isStorable = true := by
  apply Value.entriesAreStorable_iff.mpr
  intro entry member
  obtain ⟨source, listed, inSource⟩ := Merge.mem_of_mem_addAll member
  exact Value.entriesAreStorable_iff.mp (storable source listed) entry inSource

end PalletTypes
