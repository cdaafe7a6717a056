import PalletTypes.Entries

/-!
# First places and last values

Putting pairs in turn keeps the place of the first pair with a key and the
value of the last one.  `keys_putAll` and `get?_putAll` say both for any number
of pairs, and entries with distinct keys are determined by the two.
-/

namespace PalletTypes

/-- The members of a list without their later repetitions. -/
def firstOccurrences {κ : Type} [DecidableEq κ] : List κ → List κ
  | [] => []
  | head :: rest =>
      head :: (firstOccurrences rest).filter fun key => decide (key ≠ head)

section

variable {κ : Type} [DecidableEq κ]

@[simp] theorem mem_firstOccurrences {key : κ} {list : List κ} :
    key ∈ firstOccurrences list ↔ key ∈ list := by
  induction list with
  | nil => rfl
  | cons head rest ih =>
      by_cases same : key = head <;> simp [firstOccurrences, ih, same]

theorem nodup_firstOccurrences (list : List κ) :
    (firstOccurrences list).Nodup := by
  induction list with
  | nil => exact List.nodup_nil
  | cons head rest ih =>
      exact List.nodup_cons.mpr ⟨by simp, ih.filter _⟩

theorem firstOccurrences_of_nodup {list : List κ} (distinct : list.Nodup) :
    firstOccurrences list = list := by
  induction list with
  | nil => rfl
  | cons head rest ih =>
      obtain ⟨absent, restDistinct⟩ := List.nodup_cons.mp distinct
      rw [firstOccurrences, ih restDistinct]
      congr 1
      apply List.filter_eq_self.mpr
      intro key member
      simpa using fun equality : key = head => absent (equality ▸ member)

theorem firstOccurrences_append (first second : List κ) :
    firstOccurrences (first ++ second) =
      firstOccurrences first ++
        (firstOccurrences second).filter fun key => decide (key ∉ first) := by
  induction first with
  | nil => exact (List.filter_eq_self.mpr (by simp)).symm
  | cons head rest ih =>
      simp only [List.cons_append, firstOccurrences, ih, List.filter_append,
        List.filter_filter, List.cons.injEq, true_and,
        List.append_cancel_left_eq]
      apply List.filter_congr
      intro key _
      simp [not_or]

theorem firstOccurrences_append_of_subset {first second : List κ}
    (known : ∀ key ∈ second, key ∈ first) :
    firstOccurrences (first ++ second) = firstOccurrences first := by
  have nothingNew : (firstOccurrences second).filter
      (fun key => decide (key ∉ first)) = [] := by
    apply List.filter_eq_nil_iff.mpr
    intro key member
    simpa using known key (mem_firstOccurrences.mp member)
  rw [firstOccurrences_append, nothingNew, List.append_nil]

/-- The first occurrences of a list add nothing to a part of its front. -/
theorem firstOccurrences_append_firstOccurrences (before after : List κ) :
    firstOccurrences (before ++ firstOccurrences (before ++ after)) =
      firstOccurrences (before ++ after) := by
  rw [firstOccurrences_append before (firstOccurrences _),
    firstOccurrences_of_nodup (nodup_firstOccurrences _),
    firstOccurrences_append before after, List.filter_append,
    List.filter_filter]
  simp

end

namespace Entries

variable {κ α : Type} [DecidableEq κ]

theorem putAll_append (entries first second : List (κ × α)) :
    putAll entries (first ++ second) =
      putAll (putAll entries first) second := by
  simp [putAll]

/-- A key keeps the place of its first occurrence. -/
theorem keys_putAll (entries pairs : List (κ × α)) :
    keys (putAll entries pairs) =
      keys entries ++ (firstOccurrences (keys pairs)).filter
        fun key => decide (key ∉ keys entries) := by
  induction pairs generalizing entries with
  | nil => simp [putAll, keys, firstOccurrences]
  | cons pair rest ih =>
      obtain ⟨key, value⟩ := pair
      have step := ih (put key value entries)
      rw [keys_put] at step
      have fold : putAll entries ((key, value) :: rest) =
          putAll (put key value entries) rest := rfl
      have keysCons : keys ((key, value) :: rest) = key :: keys rest := rfl
      rw [fold, step, keysCons, firstOccurrences, List.filter_cons,
        List.filter_filter]
      by_cases present : key ∈ keys entries
      · simp only [present, if_true, not_true_eq_false, decide_false,
          if_false, Bool.false_eq_true, List.append_cancel_left_eq]
        apply List.filter_congr
        intro other _
        by_cases known : other ∈ keys entries
        · simp [known]
        · have different : other ≠ key := fun equality =>
            known (equality ▸ present)
          simp [known, different]
      · simp only [present, if_false, not_false_eq_true, decide_true, if_true,
          List.append_assoc, List.singleton_append, List.append_cancel_left_eq,
          List.cons.injEq, true_and]
        apply List.filter_congr
        intro other _
        simp [not_or]

theorem keys_ofPairs (pairs : List (κ × α)) :
    keys (ofPairs pairs) = firstOccurrences (keys pairs) := by
  have laws := keys_putAll [] pairs
  rw [ofPairs, laws]
  exact List.filter_eq_self.mpr (by simp [keys])

theorem get?_append (key : κ) (first second : List (κ × α)) :
    get? key (first ++ second) = (get? key first).or (get? key second) := by
  induction first with
  | nil => rfl
  | cons entry rest ih =>
      obtain ⟨other, value⟩ := entry
      by_cases same : other = key <;> simp [get?, same, ih]

/-- A key takes the value of its last occurrence. -/
theorem get?_putAll (key : κ) (entries pairs : List (κ × α)) :
    get? key (putAll entries pairs) =
      (get? key pairs.reverse).or (get? key entries) := by
  induction pairs generalizing entries with
  | nil => rfl
  | cons pair rest ih =>
      obtain ⟨other, value⟩ := pair
      have fold : putAll entries ((other, value) :: rest) =
          putAll (put other value entries) rest := rfl
      rw [fold, ih, get?_put, List.reverse_cons, get?_append]
      by_cases same : other = key <;> simp [get?, same]

/-- Where no key is repeated, the first occurrence is the last one. -/
theorem get?_reverse {entries : List (κ × α)} (key : κ)
    (distinct : (keys entries).Nodup) :
    get? key entries.reverse = get? key entries := by
  induction entries with
  | nil => rfl
  | cons entry rest ih =>
      obtain ⟨other, value⟩ := entry
      obtain ⟨absent, restDistinct⟩ := List.nodup_cons.mp distinct
      rw [List.reverse_cons, get?_append, ih restDistinct]
      by_cases same : other = key
      · have missing : get? key rest = none :=
          get?_eq_none_iff.mpr (same ▸ absent)
        simp [get?, same, missing]
      · simp [get?, same]

theorem get?_eq_some_iff {entries : List (κ × α)} {key : κ} {value : α}
    (distinct : (keys entries).Nodup) :
    get? key entries = some value ↔ (key, value) ∈ entries := by
  induction entries with
  | nil => simp [get?]
  | cons entry rest ih =>
      obtain ⟨other, old⟩ := entry
      obtain ⟨absent, restDistinct⟩ := List.nodup_cons.mp distinct
      rw [get?, List.mem_cons]
      split
      case isTrue same =>
        subst same
        have elsewhere : (other, value) ∉ rest := fun member =>
          absent (List.mem_map.mpr ⟨_, member, rfl⟩)
        simp [elsewhere, eq_comm]
      case isFalse different =>
        simp [ih restDistinct, Ne.symm different]

/-- An entry that is there after a key has been put is the new one or was there
before. -/
theorem mem_of_mem_put {key : κ} {value : α} {entry : κ × α}
    {entries : List (κ × α)} (member : entry ∈ put key value entries) :
    entry = (key, value) ∨ entry ∈ entries := by
  induction entries with
  | nil => exact Or.inl (List.mem_singleton.mp member)
  | cons first rest ih =>
      obtain ⟨other, old⟩ := first
      by_cases same : other = key
      · rw [put, if_pos same, List.mem_cons] at member
        apply member.imp
        · rw [same]
          exact id
        · exact List.mem_cons_of_mem _
      · rw [put, if_neg same, List.mem_cons] at member
        rcases member with isFirst | inRest
        · exact Or.inr (isFirst ▸ List.mem_cons_self)
        · apply (ih inRest).imp_right
          exact List.mem_cons_of_mem _

theorem mem_of_mem_putAll {entry : κ × α} {entries pairs : List (κ × α)}
    (member : entry ∈ putAll entries pairs) :
    entry ∈ entries ∨ entry ∈ pairs := by
  induction pairs generalizing entries with
  | nil => exact Or.inl member
  | cons pair rest ih =>
      rcases ih member with inFirst | inRest
      · rcases mem_of_mem_put inFirst with isPair | inEntries
        · exact Or.inr (isPair ▸ List.mem_cons_self)
        · exact Or.inl inEntries
      · exact Or.inr (List.mem_cons_of_mem _ inRest)

/-- Entries with distinct keys are determined by the keys in order and the
value of each. -/
theorem eq_of_keys_of_get? {left right : List (κ × α)}
    (distinct : (keys left).Nodup) (sameKeys : keys left = keys right)
    (sameValues : ∀ key, get? key left = get? key right) : left = right := by
  induction left generalizing right with
  | nil =>
      cases right with
      | nil => rfl
      | cons entry rest => simp [keys] at sameKeys
  | cons entry rest ih =>
      cases right with
      | nil => simp [keys] at sameKeys
      | cons other others =>
          obtain ⟨key, value⟩ := entry
          obtain ⟨otherKey, otherValue⟩ := other
          simp only [keys, List.map_cons, List.cons.injEq] at sameKeys
          obtain ⟨rfl, sameRest⟩ := sameKeys
          obtain ⟨absent, restDistinct⟩ := List.nodup_cons.mp distinct
          have sameValue : value = otherValue := by
            simpa [get?] using sameValues key
          subst otherValue
          have sameLater : ∀ wanted, get? wanted rest = get? wanted others := by
            intro wanted
            by_cases same : key = wanted
            · subst wanted
              have absentThere : key ∉ keys others := by
                rw [keys, ← sameRest]
                exact absent
              rw [get?_eq_none_iff.mpr absent,
                get?_eq_none_iff.mpr absentThere]
            · simpa [get?, same] using sameValues wanted
          rw [ih restDistinct sameRest sameLater]

/-- Putting the entries that pairs stand for is putting the pairs. -/
theorem putAll_ofPairs {entries : List (κ × α)} (pairs : List (κ × α))
    (distinct : (keys entries).Nodup) :
    putAll entries (ofPairs pairs) = putAll entries pairs := by
  have nothing : (keys ([] : List (κ × α))).Nodup := List.nodup_nil
  have distinctPairs : (keys (ofPairs pairs)).Nodup :=
    nodup_keys_putAll pairs nothing
  apply eq_of_keys_of_get? (nodup_keys_putAll _ distinct)
  · rw [keys_putAll, keys_putAll, keys_ofPairs,
      firstOccurrences_of_nodup (nodup_firstOccurrences _)]
  · intro key
    have last : get? key (ofPairs pairs) = get? key pairs.reverse := by
      rw [ofPairs, get?_putAll, get?, Option.or_none]
    rw [get?_putAll, get?_putAll, get?_reverse key distinctPairs, last]

/-- Pairs may be taken in two parts, each with its own repetitions. -/
theorem ofPairs_append_ofPairs (first second : List (κ × α)) :
    ofPairs (ofPairs first ++ ofPairs second) = ofPairs (first ++ second) := by
  have nothing : (keys ([] : List (κ × α))).Nodup := List.nodup_nil
  have distinct : (keys (putAll [] first)).Nodup :=
    nodup_keys_putAll first nothing
  rw [ofPairs, putAll_append, putAll_ofPairs first nothing,
    putAll_ofPairs second distinct, ← putAll_append]
  rfl

end Entries

end PalletTypes
