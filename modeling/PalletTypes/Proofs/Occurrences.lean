import Mathlib.Data.Finset.Card
import Mathlib.Data.List.Induction
import PalletTypes.Proofs.Entries

/-!
# First and last occurrences

A list with repetitions can be cut down to the first or to the last occurrence
of each member.  Whoever collects in order and keeps what comes first does not
see the difference to the first occurrences, and whoever searches from the
end does not see the difference to the last ones.  What the first occurrences
leave are the repetitions; how often each member is among them does not depend
on the order.
-/

namespace PalletTypes

section

variable {κ : Type} [DecidableEq κ]

/-- The members of a list without their earlier repetitions. -/
def lastOccurrences (list : List κ) : List κ :=
  (firstOccurrences list.reverse).reverse

@[simp] theorem mem_lastOccurrences {key : κ} {list : List κ} :
    key ∈ lastOccurrences list ↔ key ∈ list := by
  simp [lastOccurrences]

theorem firstOccurrences_concat (list : List κ) (last : κ) :
    firstOccurrences (list ++ [last]) =
      if last ∈ list then firstOccurrences list
      else firstOccurrences list ++ [last] := by
  rw [firstOccurrences_append]
  by_cases known : last ∈ list <;> simp [firstOccurrences, known]

/-- Later repetitions bring nothing new. -/
theorem firstOccurrences_flatMap {ι : Type} [DecidableEq ι] (list : List ι)
    (keys : ι → List κ) :
    firstOccurrences ((firstOccurrences list).flatMap keys) =
      firstOccurrences (list.flatMap keys) := by
  -- From the end, since whether a member is a repetition is decided by those
  -- in front of it.
  induction list using List.reverseRecOn with
  | nil => rfl
  | append_singleton list last ih =>
      rw [firstOccurrences_concat, List.flatMap_append, List.flatMap_singleton]
      split
      case isTrue known =>
        have old : ∀ key ∈ keys last, key ∈ list.flatMap keys :=
          fun key member => List.mem_flatMap.mpr ⟨last, known, member⟩
        rw [firstOccurrences_append_of_subset old, ih]
      case isFalse new =>
        rw [List.flatMap_append, List.flatMap_singleton,
          firstOccurrences_append, firstOccurrences_append, ih]
        congr 1
        apply List.filter_congr
        intro key _
        simp [List.mem_flatMap]

/-- What is found first is found among the first occurrences. -/
theorem findSome?_firstOccurrences {α : Type} (list : List κ)
    (find? : κ → Option α) :
    (firstOccurrences list).findSome? find? = list.findSome? find? := by
  induction list using List.reverseRecOn with
  | nil => rfl
  | append_singleton list last ih =>
      rw [firstOccurrences_concat, List.findSome?_append]
      split
      case isTrue known =>
        rw [ih]
        cases found : list.findSome? find? with
        | some value => rfl
        | none =>
            have missing := List.findSome?_eq_none_iff.mp found last known
            simp [missing]
      case isFalse new =>
        rw [List.findSome?_append, ih]

/-- What is found first from the end is found among the last occurrences. -/
theorem findSome?_reverse_lastOccurrences {α : Type} (list : List κ)
    (find? : κ → Option α) :
    (lastOccurrences list).reverse.findSome? find? =
      list.reverse.findSome? find? := by
  rw [lastOccurrences, List.reverse_reverse, findSome?_firstOccurrences]

/-- The members of a list that stand at an earlier position already, each with
the position of its repetition. -/
def repeatedOccurrences (list : List κ) : List (κ × Nat) :=
  list.zipIdx.filter fun entry => decide (entry.1 ∈ list.take entry.2)

theorem repeatedOccurrences_concat (list : List κ) (last : κ) :
    repeatedOccurrences (list ++ [last]) =
      if last ∈ list then repeatedOccurrences list ++ [(last, list.length)]
      else repeatedOccurrences list := by
  have before : ∀ entry ∈ list.zipIdx,
      decide (entry.1 ∈ (list ++ [last]).take entry.2) =
        decide (entry.1 ∈ list.take entry.2) := by
    rintro ⟨key, position⟩ member
    have inside : position < list.length := (List.mem_zipIdx' member).1
    rw [List.take_append_of_le_length (Nat.le_of_lt inside)]
  have after : (list ++ [last]).take list.length = list := by simp
  rw [repeatedOccurrences, List.zipIdx_append, List.filter_append,
    List.filter_congr before]
  by_cases known : last ∈ list <;>
    simp [repeatedOccurrences, known]

/-- The repetitions are what the first occurrences leave of a list. -/
theorem repeatedOccurrences_append_perm (list : List κ) :
    ((repeatedOccurrences list).map Prod.fst ++ firstOccurrences list).Perm
      list := by
  induction list using List.reverseRecOn with
  | nil => exact .nil
  | append_singleton list last ih =>
      rw [repeatedOccurrences_concat, firstOccurrences_concat]
      by_cases known : last ∈ list
      · rw [if_pos known, if_pos known, List.map_append, List.append_assoc]
        exact (List.perm_append_comm.append_left _).trans
          ((List.append_assoc _ _ _).symm ▸ ih.append_right _)
      · rw [if_neg known, if_neg known, ← List.append_assoc]
        exact ih.append_right _

/-- Every member of a list has one first occurrence. -/
theorem length_firstOccurrences (list : List κ) :
    (firstOccurrences list).length = list.toFinset.card := by
  have same : list.toFinset = (firstOccurrences list).toFinset := by
    ext key
    simp
  rw [same, List.toFinset_card_of_nodup (nodup_firstOccurrences list)]

theorem length_repeatedOccurrences (list : List κ) :
    (repeatedOccurrences list).length + list.toFinset.card = list.length := by
  have parts := (repeatedOccurrences_append_perm list).length_eq
  rwa [List.length_append, List.length_map, length_firstOccurrences] at parts

/-- Which members are repeated, and how often, does not depend on the order. -/
theorem repeatedOccurrences_perm {list other : List κ}
    (same : list.Perm other) :
    ((repeatedOccurrences list).map Prod.fst).Perm
      ((repeatedOccurrences other).map Prod.fst) := by
  have firsts : (firstOccurrences list).Perm (firstOccurrences other) := by
    apply (List.perm_ext_iff_of_nodup (nodup_firstOccurrences list)
      (nodup_firstOccurrences other)).mpr
    intro key
    rw [mem_firstOccurrences, mem_firstOccurrences, same.mem_iff]
  have whole := (repeatedOccurrences_append_perm list).trans
    (same.trans (repeatedOccurrences_append_perm other).symm)
  exact (List.perm_append_right_iff _).mp
    (whole.trans (firsts.symm.append_left _))

end

end PalletTypes
