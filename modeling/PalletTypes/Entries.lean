/-!
# Ordered entries

A mapping that remembers the order of its keys is a list of key and value
pairs.  Putting a key that is present replaces its value in place; a new key
goes to the end.  So a key keeps the place of its first occurrence and takes
the value of its last one.
-/

namespace PalletTypes.Entries

variable {κ α : Type} [DecidableEq κ]

/-- Replace the value of a key, or append the key with its value. -/
def put (key : κ) (value : α) : List (κ × α) → List (κ × α)
  | [] => [(key, value)]
  | (other, old) :: rest =>
      if other = key then (other, value) :: rest
      else (other, old) :: put key value rest

def keys (entries : List (κ × α)) : List κ := entries.map Prod.fst

def get? (key : κ) : List (κ × α) → Option α
  | [] => none
  | (other, value) :: rest => if other = key then some value else get? key rest

def remove (key : κ) : List (κ × α) → List (κ × α)
  | [] => []
  | (other, value) :: rest =>
      if other = key then remove key rest
      else (other, value) :: remove key rest

def putAll (entries pairs : List (κ × α)) : List (κ × α) :=
  pairs.foldl (fun done pair => put pair.1 pair.2 done) entries

/-- The entries that a list of pairs with repeated keys stands for. -/
def ofPairs (pairs : List (κ × α)) : List (κ × α) := putAll [] pairs

theorem keys_put (key : κ) (value : α) (entries : List (κ × α)) :
    keys (put key value entries) =
      if key ∈ keys entries then keys entries else keys entries ++ [key] := by
  induction entries with
  | nil => simp [put, keys]
  | cons entry rest ih =>
      obtain ⟨other, old⟩ := entry
      by_cases same : other = key
      · simp [put, keys, same]
      · have different : key ≠ other := fun equality => same equality.symm
        simp only [keys] at ih
        simp only [put, same, if_false, keys, List.map_cons, List.mem_cons,
          different, false_or, ih]
        by_cases present : key ∈ List.map Prod.fst rest <;> simp [present]

theorem nodup_keys_put {entries : List (κ × α)} (key : κ) (value : α)
    (distinct : (keys entries).Nodup) :
    (keys (put key value entries)).Nodup := by
  rw [keys_put]
  split
  · exact distinct
  · rename_i absent
    exact List.nodup_append.mpr ⟨distinct, by simp, by
      intro left leftMember right rightMember equality
      rw [List.mem_singleton.mp rightMember] at equality
      exact absent (equality ▸ leftMember)⟩

theorem nodup_keys_putAll {entries : List (κ × α)} (pairs : List (κ × α))
    (distinct : (keys entries).Nodup) :
    (keys (putAll entries pairs)).Nodup := by
  induction pairs generalizing entries with
  | nil => exact distinct
  | cons pair rest ih => exact ih (nodup_keys_put pair.1 pair.2 distinct)

theorem get?_put (key wanted : κ) (value : α) (entries : List (κ × α)) :
    get? wanted (put key value entries) =
      if key = wanted then some value else get? wanted entries := by
  induction entries with
  | nil => simp [put, get?]
  | cons entry rest ih =>
      obtain ⟨other, old⟩ := entry
      by_cases same : other = key
      · subst other
        by_cases found : key = wanted <;> simp [put, get?, found]
      · by_cases found : other = wanted
        · subst other
          have different : key ≠ wanted := fun equality => same equality.symm
          simp [put, get?, same, different]
        · simp [put, get?, same, found, ih]

theorem get?_eq_none_iff {key : κ} {entries : List (κ × α)} :
    get? key entries = none ↔ key ∉ keys entries := by
  induction entries with
  | nil => simp [get?, keys]
  | cons entry rest ih =>
      obtain ⟨other, value⟩ := entry
      simp only [keys] at ih
      by_cases same : other = key
      · simp [get?, keys, same]
      · have different : key ≠ other := fun equality => same equality.symm
        simp only [get?, same, if_false, ih, keys, List.map_cons,
          List.mem_cons, different, false_or]

/-- Of two values put under one key the second stays. -/
theorem put_put (key : κ) (first second : α) (entries : List (κ × α)) :
    put key second (put key first entries) = put key second entries := by
  induction entries with
  | nil => simp [put]
  | cons entry rest ih =>
      obtain ⟨other, old⟩ := entry
      by_cases same : other = key <;> simp [put, same, ih]

/-- A new key goes to the end. -/
theorem put_of_not_mem {key : κ} {entries : List (κ × α)} (value : α)
    (absent : key ∉ keys entries) :
    put key value entries = entries ++ [(key, value)] := by
  induction entries with
  | nil => rfl
  | cons entry rest ih =>
      obtain ⟨other, old⟩ := entry
      have different : other ≠ key := fun equality =>
        absent (by simp [keys, equality])
      have absentLater : key ∉ keys rest := fun member =>
        absent (List.mem_cons_of_mem _ member)
      simp [put, different, ih absentLater]

theorem get?_remove (key wanted : κ) (entries : List (κ × α)) :
    get? wanted (remove key entries) =
      if wanted = key then none else get? wanted entries := by
  induction entries with
  | nil => simp [remove, get?]
  | cons entry rest ih =>
      obtain ⟨other, value⟩ := entry
      by_cases removed : other = key
      · subst other
        by_cases same : wanted = key
        · simpa [remove, same] using ih
        · have different : key ≠ wanted := fun equality => same equality.symm
          simp [remove, get?, ih, same, different]
      · by_cases found : other = wanted
        · subst other
          simp [remove, get?, removed]
        · simp [remove, get?, removed, found, ih]

/-- Removing a key that has just been appended restores the entries. -/
theorem remove_put_of_not_mem {key : κ} {entries : List (κ × α)} (value : α)
    (absent : key ∉ keys entries) :
    remove key (put key value entries) = entries := by
  induction entries with
  | nil => simp [put, remove]
  | cons entry rest ih =>
      obtain ⟨other, old⟩ := entry
      have different : other ≠ key := fun equality =>
        absent (by simp [keys, equality])
      have absentLater : key ∉ keys rest := fun member =>
        absent (List.mem_cons_of_mem _ member)
      simp [put, remove, different, ih absentLater]

end PalletTypes.Entries
