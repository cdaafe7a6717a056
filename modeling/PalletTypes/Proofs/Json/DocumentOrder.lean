import Mathlib.Algebra.Group.Int.Defs
import PalletTypes.Proofs.Json.Layout

/-!
# Values in document order

A walk through a value meets everything in it, one after the other: a container
before its content, a key before its value, items in their order.  The walk
never stops, and a defect belongs to a single encounter: an integer, a text or
a container that opens one level too deep.  So what the writer stops at is the
first encounter of the walk that has a defect.
-/

namespace PalletTypes.Json

/-- What a walk through a value meets. -/
inductive Encounter where
  /-- A null or a truth value. -/
  | constant
  | integer (number : Int)
  | float (number : Binary64)
  /-- A text, or the key of an entry. -/
  | text (content : Text)
  /-- A list or a mapping that opens at a level of nesting. -/
  | container (level : Nat)

/-- The encounter has the defect by itself.  Numbers that are no integers have
none. -/
inductive Encounter.Has : Encounter → Defect → Prop where
  | tooSmall {number : Int} (below : number < -2 ^ 63) :
      Has (.integer number) .integerRange
  | tooLarge {number : Int} (above : 2 ^ 64 - 1 < number) :
      Has (.integer number) .integerRange
  | surrogate {content : Text} {offset : Fin 0x800}
      (member : .surrogate offset ∈ content) : Has (.text content) .surrogate
  /-- A deeper container is only met behind one at this level. -/
  | depth : Has (.container 255) .depth

mutual

/-- All encounters of a walk through a value, which is a container at the given
level if it is one. -/
def walk (level : Nat) : Value → List Encounter
  | .null => [.constant]
  | .bool _ => [.constant]
  | .int number => [.integer number]
  | .float number => [.float number]
  | .text content => [.text content]
  | .list items => .container level :: walkItems (level + 1) items
  | .mapping entries => .container level :: walkEntries (level + 1) entries

def walkItems (level : Nat) : List Value → List Encounter
  | [] => []
  | item :: items => walk level item ++ walkItems level items

def walkEntries (level : Nat) : List (Text × Value) → List Encounter
  | [] => []
  | (key, value) :: entries =>
      .text key :: (walk level value ++ walkEntries level entries)

end

example :
    walk 1 (.mapping [("a", .list [.int 1, .mapping []]), ("b", .null)]) =
      [.container 1, .text "a", .container 2, .integer 1, .container 3,
        .text "b", .constant] := rfl

/-- The defect is that of the first encounter that has one. -/
def MeetsFirst (encounters : List Encounter) (defect : Defect) : Prop :=
  ∃ before encounter after, encounters = before ++ encounter :: after ∧
    encounter.Has defect ∧ ∀ earlier ∈ before, ∀ other, ¬earlier.Has other

/-! ## Defects are found -/

/-- The defect of an encounter, if it has one. -/
def Encounter.defect? : Encounter → Option Defect
  | .constant => none
  | .integer number =>
      if isWordInteger number then none else some .integerRange
  | .float _ => none
  | .text content => textDefect? content
  | .container level => if level = writingDepth + 1 then some .depth else none

theorem isWordInteger_eq_false_iff {number : Int} :
    isWordInteger number = false ↔
      number < -2 ^ 63 ∨ 2 ^ 64 - 1 < number := by
  simp only [isWordInteger, Bool.and_eq_false_iff, decide_eq_false_iff_not,
    Int.not_le]
  rfl

theorem any_isSurrogate_iff {content : Text} :
    content.any (·.isSurrogate) = true ↔
      ∃ offset, CodePoint.surrogate offset ∈ content := by
  rw [List.any_eq_true]
  constructor
  · rintro ⟨point, member, isSurrogate⟩
    cases point with
    | scalar char => exact nomatch isSurrogate
    | surrogate offset => exact ⟨offset, member⟩
  · rintro ⟨offset, member⟩
    exact ⟨_, member, rfl⟩

namespace Encounter

variable {defect : Defect}

theorem has_integer_iff {number : Int} :
    (integer number).Has defect ↔
      isWordInteger number = false ∧ defect = .integerRange := by
  rw [isWordInteger_eq_false_iff]
  constructor
  · intro has
    cases has with
    | tooSmall below => exact ⟨.inl below, rfl⟩
    | tooLarge above => exact ⟨.inr above, rfl⟩
  · rintro ⟨below | above, rfl⟩
    · exact .tooSmall below
    · exact .tooLarge above

theorem has_text_iff {content : Text} :
    (text content).Has defect ↔
      content.any (·.isSurrogate) = true ∧ defect = .surrogate := by
  rw [any_isSurrogate_iff]
  constructor
  · intro has
    cases has with
    | surrogate member => exact ⟨⟨_, member⟩, rfl⟩
  · rintro ⟨⟨offset, member⟩, rfl⟩
    exact .surrogate member

theorem has_container_iff {level : Nat} :
    (container level).Has defect ↔
      level = writingDepth + 1 ∧ defect = .depth := by
  constructor
  · intro has
    cases has
    exact ⟨rfl, rfl⟩
  · rintro ⟨rfl, rfl⟩
    exact .depth

theorem defect?_eq_some_iff {encounter : Encounter} :
    encounter.defect? = some defect ↔ encounter.Has defect := by
  cases encounter with
  | constant => exact ⟨nofun, nofun⟩
  | float number => exact ⟨nofun, nofun⟩
  | integer number =>
      rw [defect?, has_integer_iff]
      cases isWordInteger number <;> simp [eq_comm]
  | text content =>
      rw [defect?, textDefect?, has_text_iff]
      cases content.any (·.isSurrogate) <;> simp [eq_comm]
  | container level =>
      rw [defect?, has_container_iff]
      split <;> simp [*, eq_comm]

theorem defect?_eq_none_iff {encounter : Encounter} :
    encounter.defect? = none ↔ ∀ defect, ¬encounter.Has defect := by
  simp only [← defect?_eq_some_iff]
  exact Option.eq_none_iff_forall_ne_some

end Encounter

theorem findSome?_eq_some_iff_meetsFirst {encounters : List Encounter}
    {defect : Defect} :
    encounters.findSome? Encounter.defect? = some defect ↔
      MeetsFirst encounters defect := by
  simp only [List.findSome?_eq_some_iff, Encounter.defect?_eq_some_iff,
    Encounter.defect?_eq_none_iff]
  rfl

mutual

/-- The defect of a value inside so many containers is found on the walk that
starts one level deeper. -/
theorem defect?_eq_findSome?_walk {depth : Nat} (value : Value)
    (inside : depth ≤ writingDepth) :
    defect? depth value =
      (walk (depth + 1) value).findSome? Encounter.defect? := by
  cases value with
  | null => rfl
  | bool truth => rfl
  | int number => simp [defect?, walk, Encounter.defect?]
  | float number => rfl
  | text content => simp [defect?, walk, Encounter.defect?]
  | list items =>
      rw [defect?, walk, List.findSome?_cons, Encounter.defect?]
      split
      case isTrue opens =>
        have shallow : depth + 1 ≠ writingDepth + 1 := by omega
        rw [if_neg shallow]
        exact itemsDefect?_eq_findSome?_walk items opens
      case isFalse full =>
        have limit : depth + 1 = writingDepth + 1 := by omega
        rw [if_pos limit]
  | mapping entries =>
      rw [defect?, walk, List.findSome?_cons, Encounter.defect?]
      split
      case isTrue opens =>
        have shallow : depth + 1 ≠ writingDepth + 1 := by omega
        rw [if_neg shallow]
        exact entriesDefect?_eq_findSome?_walk entries opens
      case isFalse full =>
        have limit : depth + 1 = writingDepth + 1 := by omega
        rw [if_pos limit]

theorem itemsDefect?_eq_findSome?_walk {depth : Nat} (items : List Value)
    (inside : depth ≤ writingDepth) :
    itemsDefect? depth items =
      (walkItems (depth + 1) items).findSome? Encounter.defect? := by
  cases items with
  | nil => rfl
  | cons item items =>
      rw [itemsDefect?, walkItems, List.findSome?_append,
        defect?_eq_findSome?_walk item inside,
        itemsDefect?_eq_findSome?_walk items inside]

theorem entriesDefect?_eq_findSome?_walk {depth : Nat}
    (entries : List (Text × Value)) (inside : depth ≤ writingDepth) :
    entriesDefect? depth entries =
      (walkEntries (depth + 1) entries).findSome? Encounter.defect? := by
  cases entries with
  | nil => rfl
  | cons entry entries =>
      obtain ⟨key, value⟩ := entry
      have first : ((Encounter.text key) :: (walk (depth + 1) value ++
          walkEntries (depth + 1) entries)).findSome? Encounter.defect? =
            (textDefect? key).or ((walk (depth + 1) value ++
              walkEntries (depth + 1) entries).findSome?
                Encounter.defect?) := by
        rw [List.findSome?_cons, Encounter.defect?]
        cases textDefect? key <;> rfl
      rw [entriesDefect?, walkEntries, first, List.findSome?_append,
        defect?_eq_findSome?_walk value inside,
        entriesDefect?_eq_findSome?_walk entries inside]

end

end PalletTypes.Json
