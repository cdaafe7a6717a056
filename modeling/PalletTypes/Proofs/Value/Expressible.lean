import PalletTypes.Proofs.Json.Layout
import PalletTypes.Proofs.Value.Storable

/-!
# Values that a file can express

A value is expressible if its integers fit a word and its texts and keys hold
characters only; its numbers need not be finite, for a file expresses the
others by null.  Nothing but its nesting can keep such a value from being
written.  Whatever a file can hold is expressible, and so is everything that
expressible sources are merged into.
-/

namespace PalletTypes

namespace Value

mutual

/-- No part of the value is beyond what a file can express. -/
def isExpressible : Value → Bool
  | .null => true
  | .bool _ => true
  | .int number => isWordInteger number
  | .float _ => true
  | .text content => !content.any (·.isSurrogate)
  | .list items => itemsAreExpressible items
  | .mapping entries => entriesAreExpressible entries

def itemsAreExpressible : List Value → Bool
  | [] => true
  | item :: items => item.isExpressible && itemsAreExpressible items

def entriesAreExpressible : List (Text × Value) → Bool
  | [] => true
  | (key, value) :: entries =>
      (!key.any (·.isSurrogate) && value.isExpressible) &&
        entriesAreExpressible entries

end

theorem entriesAreExpressible_iff {entries : List (Text × Value)} :
    entriesAreExpressible entries = true ↔
      ∀ entry ∈ entries,
        (!entry.1.any (·.isSurrogate) && entry.2.isExpressible) = true := by
  induction entries with
  | nil => simp [entriesAreExpressible]
  | cons entry entries ih =>
      obtain ⟨key, value⟩ := entry
      rw [entriesAreExpressible, Bool.and_eq_true, ih, List.forall_mem_cons]

mutual

/-- What a file can hold it can express. -/
theorem isExpressible_of_isStorable {value : Value}
    (storable : value.isStorable = true) : value.isExpressible = true := by
  cases value with
  | null => rfl
  | bool truth => rfl
  | int number => exact storable
  | float number => rfl
  | text content => exact storable
  | list items => exact itemsAreExpressible_of_itemsAreStorable storable
  | mapping entries => exact entriesAreExpressible_of_entriesAreStorable storable

theorem itemsAreExpressible_of_itemsAreStorable {items : List Value}
    (storable : itemsAreStorable items = true) :
    itemsAreExpressible items = true := by
  cases items with
  | nil => rfl
  | cons item items =>
      rw [itemsAreStorable, Bool.and_eq_true] at storable
      rw [itemsAreExpressible, isExpressible_of_isStorable storable.1,
        itemsAreExpressible_of_itemsAreStorable storable.2]
      rfl

theorem entriesAreExpressible_of_entriesAreStorable
    {entries : List (Text × Value)}
    (storable : entriesAreStorable entries = true) :
    entriesAreExpressible entries = true := by
  cases entries with
  | nil => rfl
  | cons entry entries =>
      obtain ⟨key, value⟩ := entry
      rw [entriesAreStorable, Bool.and_eq_true, Bool.and_eq_true] at storable
      rw [entriesAreExpressible, storable.1.1,
        isExpressible_of_isStorable storable.1.2,
        entriesAreExpressible_of_entriesAreStorable storable.2]
      rfl

end

/-- The entries of a mapping are nested deeper than a bound if one of their
values is. -/
theorem lt_entriesNesting_iff {bound : Nat} {entries : List (Text × Value)} :
    bound < entriesNesting entries ↔
      ∃ entry ∈ entries, bound < entry.2.nesting := by
  induction entries with
  | nil => simp [entriesNesting]
  | cons entry entries ih =>
      obtain ⟨key, value⟩ := entry
      have deeper : bound < max value.nesting (entriesNesting entries) ↔
          bound < value.nesting ∨ bound < entriesNesting entries := by omega
      simp [entriesNesting, deeper, ih]

end Value

namespace Json

open Value

theorem textDefect?_of_scalar {text : Text}
    (scalar : (!text.any (·.isSurrogate)) = true) : textDefect? text = none := by
  rw [Bool.not_eq_true'] at scalar
  simp [textDefect?, scalar]

/-- The defect of a nesting, if it is too deep. -/
def nestingDefect? (nesting : Nat) : Option Defect :=
  if nesting ≤ writingDepth then none else some .depth

theorem nestingDefect?_eq_none_iff {nesting : Nat} :
    nestingDefect? nesting = none ↔ nesting ≤ writingDepth := by
  unfold nestingDefect?
  split <;> simp [*]

theorem nestingDefect?_max (left right : Nat) :
    (nestingDefect? left).or (nestingDefect? right) =
      nestingDefect? (max left right) := by
  simp only [nestingDefect?, Nat.max_le]
  by_cases shallow : left ≤ writingDepth <;>
    by_cases shallowToo : right ≤ writingDepth <;> simp [shallow, shallowToo]

mutual

/-- An expressible value has no defect but that of its nesting. -/
theorem defect?_of_isExpressible {depth : Nat} {value : Value}
    (expressible : value.isExpressible = true) (inside : depth ≤ writingDepth) :
    defect? depth value = nestingDefect? (depth + value.nesting) := by
  cases value with
  | null => simp [defect?, nesting, nestingDefect?, inside]
  | bool truth => simp [defect?, nesting, nestingDefect?, inside]
  | int number =>
      rw [isExpressible] at expressible
      simp [defect?, nesting, nestingDefect?, inside, expressible]
  | float number => simp [defect?, nesting, nestingDefect?, inside]
  | text content =>
      rw [isExpressible] at expressible
      simp [defect?, nesting, nestingDefect?, inside,
        textDefect?_of_scalar expressible]
  | list items =>
      rw [defect?, nesting]
      split
      case isTrue opens =>
        rw [itemsDefect?_of_itemsAreExpressible expressible opens]
        congr 1
        omega
      case isFalse full =>
        have deep : ¬depth + (itemsNesting items + 1) ≤ writingDepth := by omega
        rw [nestingDefect?, if_neg deep]
  | mapping entries =>
      rw [defect?, nesting]
      split
      case isTrue opens =>
        rw [entriesDefect?_of_entriesAreExpressible expressible opens]
        congr 1
        omega
      case isFalse full =>
        have deep : ¬depth + (entriesNesting entries + 1) ≤ writingDepth := by
          omega
        rw [nestingDefect?, if_neg deep]

theorem itemsDefect?_of_itemsAreExpressible {depth : Nat} {items : List Value}
    (expressible : itemsAreExpressible items = true)
    (inside : depth ≤ writingDepth) :
    itemsDefect? depth items = nestingDefect? (depth + itemsNesting items) := by
  cases items with
  | nil => simp [itemsDefect?, itemsNesting, nestingDefect?, inside]
  | cons item items =>
      rw [itemsAreExpressible, Bool.and_eq_true] at expressible
      rw [itemsDefect?, defect?_of_isExpressible expressible.1 inside,
        itemsDefect?_of_itemsAreExpressible expressible.2 inside,
        nestingDefect?_max, Nat.add_max_add_left, itemsNesting]

theorem entriesDefect?_of_entriesAreExpressible {depth : Nat}
    {entries : List (Text × Value)}
    (expressible : entriesAreExpressible entries = true)
    (inside : depth ≤ writingDepth) :
    entriesDefect? depth entries =
      nestingDefect? (depth + entriesNesting entries) := by
  cases entries with
  | nil => simp [entriesDefect?, entriesNesting, nestingDefect?, inside]
  | cons entry entries =>
      obtain ⟨key, value⟩ := entry
      rw [entriesAreExpressible, Bool.and_eq_true, Bool.and_eq_true]
        at expressible
      rw [entriesDefect?, textDefect?_of_scalar expressible.1.1,
        Option.none_or, defect?_of_isExpressible expressible.1.2 inside,
        entriesDefect?_of_entriesAreExpressible expressible.2 inside,
        nestingDefect?_max, Nat.add_max_add_left, entriesNesting]

end

end Json

namespace TypeTable

/-- No definition and no name is beyond what a file can express. -/
def isExpressible (table : TypeTable) : Bool :=
  Value.entriesAreExpressible table.entries

theorem isExpressible_of_isStorable {table : TypeTable}
    (storable : table.isStorable = true) : table.isExpressible = true :=
  Value.entriesAreExpressible_of_entriesAreStorable storable

/-- The only defect of an expressible table is its nesting. -/
theorem defect?_of_isExpressible {table : TypeTable}
    (expressible : table.isExpressible = true) :
    Json.defect? 0 table.toValue =
      Json.nestingDefect? table.toValue.nesting := by
  have whole : table.toValue.isExpressible = true := expressible
  rw [Json.defect?_of_isExpressible whole (Nat.zero_le _), Nat.zero_add]

end TypeTable

/-- A merge of expressible tables is expressible. -/
theorem Merge.isExpressible_addAll {sources : List (Text × TypeTable)}
    (expressible : ∀ source ∈ sources, source.2.isExpressible = true) :
    (Merge.empty.addAll sources).table.isExpressible = true := by
  apply Value.entriesAreExpressible_iff.mpr
  intro entry member
  obtain ⟨source, listed, inSource⟩ := Merge.mem_of_mem_addAll member
  exact Value.entriesAreExpressible_iff.mp (expressible source listed) entry
    inSource

end PalletTypes
