import PalletTypes.Proofs.Merge

/-!
# What a file keeps of a value

A file keeps a value as it is, but for numbers that are not finite, which it
keeps as null.  The keys of a mapping are distinct at every level; for the
values that come from outside this is stated by `hasDistinctKeys`.
-/

namespace PalletTypes

namespace Value

mutual

/-- The value with null for every number that is not finite. -/
def onFile : Value → Value
  | .null => .null
  | .bool truth => .bool truth
  | .int number => .int number
  | .float number => if number.IsFinite then .float number else .null
  | .text content => .text content
  | .list items => .list (itemsOnFile items)
  | .mapping entries => .mapping (entriesOnFile entries)

def itemsOnFile : List Value → List Value
  | [] => []
  | item :: items => item.onFile :: itemsOnFile items

def entriesOnFile : List (Text × Value) → List (Text × Value)
  | [] => []
  | (key, value) :: entries => (key, value.onFile) :: entriesOnFile entries

end

mutual

/-- No mapping in the value repeats a key. -/
def hasDistinctKeys : Value → Bool
  | .null => true
  | .bool _ => true
  | .int _ => true
  | .float _ => true
  | .text _ => true
  | .list items => itemsHaveDistinctKeys items
  | .mapping entries =>
      decide (Entries.keys entries).Nodup && entriesHaveDistinctKeys entries

def itemsHaveDistinctKeys : List Value → Bool
  | [] => true
  | item :: items => item.hasDistinctKeys && itemsHaveDistinctKeys items

def entriesHaveDistinctKeys : List (Text × Value) → Bool
  | [] => true
  | (_, value) :: entries =>
      value.hasDistinctKeys && entriesHaveDistinctKeys entries

end

@[simp] theorem keys_entriesOnFile (entries : List (Text × Value)) :
    Entries.keys (entriesOnFile entries) = Entries.keys entries := by
  induction entries with
  | nil => rfl
  | cons entry entries ih =>
      obtain ⟨key, value⟩ := entry
      simpa [entriesOnFile, Entries.keys] using ih

@[simp] theorem isEmpty_itemsOnFile (items : List Value) :
    (itemsOnFile items).isEmpty = items.isEmpty := by
  cases items <;> rfl

@[simp] theorem isEmpty_entriesOnFile (entries : List (Text × Value)) :
    (entriesOnFile entries).isEmpty = entries.isEmpty := by
  cases entries with
  | nil => rfl
  | cons entry entries => rfl

theorem get?_entriesOnFile (key : Text) (entries : List (Text × Value)) :
    Entries.get? key (entriesOnFile entries) =
      (Entries.get? key entries).map onFile := by
  induction entries with
  | nil => rfl
  | cons entry entries ih =>
      obtain ⟨other, value⟩ := entry
      by_cases same : other = key <;> simp [entriesOnFile, Entries.get?, same, ih]

mutual

/-- What a file keeps is kept as it is. -/
@[simp] theorem onFile_onFile (value : Value) :
    value.onFile.onFile = value.onFile := by
  cases value with
  | null => rfl
  | bool truth => rfl
  | int number => rfl
  | float number =>
      by_cases finite : number.IsFinite <;> simp [onFile, finite]
  | text content => rfl
  | list items => simp [onFile, itemsOnFile_itemsOnFile items]
  | mapping entries => simp [onFile, entriesOnFile_entriesOnFile entries]

theorem itemsOnFile_itemsOnFile (items : List Value) :
    itemsOnFile (itemsOnFile items) = itemsOnFile items := by
  cases items with
  | nil => rfl
  | cons item items =>
      simp [itemsOnFile, onFile_onFile item, itemsOnFile_itemsOnFile items]

theorem entriesOnFile_entriesOnFile (entries : List (Text × Value)) :
    entriesOnFile (entriesOnFile entries) = entriesOnFile entries := by
  cases entries with
  | nil => rfl
  | cons entry entries =>
      obtain ⟨key, value⟩ := entry
      simp [entriesOnFile, onFile_onFile value,
        entriesOnFile_entriesOnFile entries]

end

/-! ## Distinct keys -/

theorem itemsHaveDistinctKeys_iff {items : List Value} :
    itemsHaveDistinctKeys items = true ↔
      ∀ item ∈ items, item.hasDistinctKeys = true := by
  induction items with
  | nil => simp [itemsHaveDistinctKeys]
  | cons item items ih => simp [itemsHaveDistinctKeys, ih]

theorem entriesHaveDistinctKeys_iff {entries : List (Text × Value)} :
    entriesHaveDistinctKeys entries = true ↔
      ∀ entry ∈ entries, entry.2.hasDistinctKeys = true := by
  induction entries with
  | nil => simp [entriesHaveDistinctKeys]
  | cons entry entries ih =>
      obtain ⟨key, value⟩ := entry
      simp only [entriesHaveDistinctKeys, Bool.and_eq_true, ih,
        List.forall_mem_cons]

theorem entriesHaveDistinctKeys_put (key : Text) {value : Value}
    {entries : List (Text × Value)} (new : value.hasDistinctKeys = true)
    (old : entriesHaveDistinctKeys entries = true) :
    entriesHaveDistinctKeys (Entries.put key value entries) = true := by
  rw [entriesHaveDistinctKeys_iff] at old ⊢
  intro entry member
  rcases Entries.mem_of_mem_put member with rfl | inEntries
  · exact new
  · exact old entry inEntries

theorem hasDistinctKeys_mapping_iff {entries : List (Text × Value)} :
    (mapping entries).hasDistinctKeys = true ↔
      (Entries.keys entries).Nodup ∧ entriesHaveDistinctKeys entries = true := by
  rw [hasDistinctKeys, Bool.and_eq_true, decide_eq_true_eq]

/-- A mapping repeats no key after another entry has been put. -/
theorem hasDistinctKeys_put (key : Text) {value : Value}
    {entries : List (Text × Value)} (new : value.hasDistinctKeys = true)
    (old : (mapping entries).hasDistinctKeys = true) :
    (mapping (Entries.put key value entries)).hasDistinctKeys = true := by
  rw [hasDistinctKeys_mapping_iff] at old ⊢
  exact ⟨Entries.nodup_keys_put key value old.1,
    entriesHaveDistinctKeys_put key new old.2⟩

end Value

namespace TypeTable

/-- The table as a file keeps it. -/
def onFile (table : TypeTable) : TypeTable :=
  ⟨Value.entriesOnFile table.entries, by
    rw [Value.keys_entriesOnFile]
    exact table.distinct⟩

/-- No mapping in a definition repeats a key. -/
def hasDistinctKeys (table : TypeTable) : Bool :=
  Value.entriesHaveDistinctKeys table.entries

@[simp] theorem names_onFile (table : TypeTable) :
    table.onFile.names = table.names :=
  Value.keys_entriesOnFile table.entries

theorem get?_onFile (table : TypeTable) (name : Text) :
    table.onFile.get? name = (table.get? name).map Value.onFile :=
  Value.get?_entriesOnFile name table.entries

@[simp] theorem onFile_onFile (table : TypeTable) :
    table.onFile.onFile = table.onFile :=
  TypeTable.ext (Value.entriesOnFile_entriesOnFile table.entries)

theorem toValue_onFile (table : TypeTable) :
    table.onFile.toValue = table.toValue.onFile := by
  simp [toValue, onFile, Value.onFile]

theorem hasDistinctKeys_toValue {table : TypeTable}
    (distinct : table.hasDistinctKeys = true) :
    table.toValue.hasDistinctKeys = true :=
  Value.hasDistinctKeys_mapping_iff.mpr ⟨table.distinct, distinct⟩

theorem hasDistinctKeys_ofPairs {pairs : List (Text × Value)}
    (distinct : Value.entriesHaveDistinctKeys pairs = true) :
    (ofPairs pairs).hasDistinctKeys = true := by
  rw [Value.entriesHaveDistinctKeys_iff] at distinct
  apply Value.entriesHaveDistinctKeys_iff.mpr
  intro entry member
  rcases Entries.mem_of_mem_putAll member with inEmpty | inPairs
  · exact nomatch inEmpty
  · exact distinct entry inPairs

end TypeTable

/-- A merge of tables that repeat no key repeats none. -/
theorem Merge.hasDistinctKeys_addAll {sources : List (Text × TypeTable)}
    (distinct : ∀ source ∈ sources, source.2.hasDistinctKeys = true) :
    (Merge.empty.addAll sources).table.hasDistinctKeys = true := by
  apply Value.entriesHaveDistinctKeys_iff.mpr
  intro entry member
  obtain ⟨source, listed, inSource⟩ := Merge.mem_of_mem_addAll member
  exact Value.entriesHaveDistinctKeys_iff.mp (distinct source listed) entry
    inSource

end PalletTypes
