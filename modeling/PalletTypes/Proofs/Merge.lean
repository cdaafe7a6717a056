import PalletTypes.Merge
import PalletTypes.Proofs.Entries

/-!
# What a merge holds

A merge of sources holds the names of all of them, each at its first place, and
under each name the definition of the last source that has it.
-/

namespace PalletTypes

/-- The names of all sources in order, with repetitions. -/
def sourceNames (sources : List (Text × TypeTable)) : List Text :=
  sources.flatMap fun source => source.2.names

/-- The definition that the last source with a name gives to it. -/
def lastDefinition? (name : Text) (sources : List (Text × TypeTable)) :
    Option Value :=
  sources.reverse.findSome? fun source => source.2.get? name

@[simp] theorem sourceNames_cons (source : Text × TypeTable)
    (rest : List (Text × TypeTable)) :
    sourceNames (source :: rest) = source.2.names ++ sourceNames rest := by
  simp [sourceNames]

theorem mem_sourceNames {name : Text} {sources : List (Text × TypeTable)} :
    name ∈ sourceNames sources ↔ ∃ source ∈ sources, name ∈ source.2.names :=
  List.mem_flatMap

theorem sourceNames_append (first second : List (Text × TypeTable)) :
    sourceNames (first ++ second) =
      sourceNames first ++ sourceNames second :=
  List.flatMap_append

theorem lastDefinition?_append (name : Text)
    (first second : List (Text × TypeTable)) :
    lastDefinition? name (first ++ second) =
      (lastDefinition? name second).or (lastDefinition? name first) := by
  simp [lastDefinition?, List.findSome?_append]

theorem lastDefinition?_cons (name : Text) (source : Text × TypeTable)
    (rest : List (Text × TypeTable)) :
    lastDefinition? name (source :: rest) =
      (lastDefinition? name rest).or (source.2.get? name) := by
  rw [← List.singleton_append, lastDefinition?_append]
  simp [lastDefinition?]

theorem TypeTable.get?_eq_none_iff {table : TypeTable} {name : Text} :
    table.get? name = none ↔ name ∉ table.names :=
  Entries.get?_eq_none_iff

theorem TypeTable.mem_names_of_get? {table : TypeTable} {name : Text}
    {definition : Value} (found : table.get? name = some definition) :
    name ∈ table.names := by
  apply Decidable.byContradiction
  intro absent
  rw [TypeTable.get?_eq_none_iff.mpr absent] at found
  exact nomatch found

theorem TypeTable.eq_of_names_of_get? {left right : TypeTable}
    (sameNames : left.names = right.names)
    (sameDefinitions : ∀ name, left.get? name = right.get? name) :
    left = right :=
  TypeTable.ext
    (Entries.eq_of_keys_of_get? left.distinct sameNames sameDefinitions)

theorem TypeTable.ofPairs_entries (table : TypeTable) :
    ofPairs table.entries = table := by
  apply TypeTable.eq_of_names_of_get?
  · exact (Entries.keys_ofPairs table.entries).trans
      (firstOccurrences_of_nodup table.distinct)
  · intro name
    have nothing : Entries.get? name empty.entries = none := rfl
    rw [ofPairs, TypeTable.get?, putAll, Entries.get?_putAll, nothing,
      Option.or_none]
    exact Entries.get?_reverse name table.distinct

/-- One of the sources gives the definition to the name, and no later one has
the name. -/
def Survives (sources : List (Text × TypeTable)) (name : Text)
    (definition : Value) : Prop :=
  ∃ before source after, sources = before ++ source :: after ∧
    source.2.get? name = some definition ∧
    ∀ later ∈ after, name ∉ later.2.names

theorem lastDefinition?_eq_some_iff {sources : List (Text × TypeTable)}
    {name : Text} {definition : Value} :
    lastDefinition? name sources = some definition ↔
      Survives sources name definition := by
  unfold lastDefinition? Survives
  rw [List.findSome?_eq_some_iff]
  constructor
  · rintro ⟨after, source, before, turned, found, absent⟩
    refine ⟨before.reverse, source, after.reverse, ?_, found, ?_⟩
    · rw [← List.reverse_reverse sources, turned]
      simp
    · intro later member
      exact TypeTable.get?_eq_none_iff.mp
        (absent later (List.mem_reverse.mp member))
  · rintro ⟨before, source, after, rfl, found, absent⟩
    refine ⟨after.reverse, source, before.reverse, by simp, found, ?_⟩
    intro later member
    exact TypeTable.get?_eq_none_iff.mpr
      (absent later (List.mem_reverse.mp member))

namespace Merge

theorem entries_addAll (merge : Merge) (sources : List (Text × TypeTable)) :
    (merge.addAll sources).table.entries =
      Entries.putAll merge.table.entries
        (sources.flatMap fun source => source.2.entries) := by
  induction sources generalizing merge with
  | nil => rfl
  | cons source rest ih =>
      rw [addAll_cons, ih, List.flatMap_cons, Entries.putAll_append]
      rfl

theorem sources_addAll (merge : Merge) (sources : List (Text × TypeTable)) :
    (merge.addAll sources).sources =
      merge.sources ++ sources.map Prod.fst := by
  induction sources generalizing merge with
  | nil => simp
  | cons source rest ih => simp [ih]

/-- The names of a merge are those of its sources, each at its first place. -/
theorem names_addAll_empty (sources : List (Text × TypeTable)) :
    (empty.addAll sources).table.names =
      firstOccurrences (sourceNames sources) := by
  have keys : Entries.keys (sources.flatMap fun source => source.2.entries) =
      sourceNames sources := by
    simp [Entries.keys, sourceNames, List.map_flatMap, TypeTable.names]
  rw [TypeTable.names, entries_addAll, ← keys]
  exact Entries.keys_ofPairs _

/-- A merge defines a name as the last of its sources that has it. -/
theorem get?_addAll_empty (sources : List (Text × TypeTable)) (name : Text) :
    (empty.addAll sources).table.get? name =
      lastDefinition? name sources := by
  rw [TypeTable.get?, entries_addAll, Entries.get?_putAll]
  have nothing : Entries.get? name empty.table.entries = none := rfl
  rw [nothing, Option.or_none]
  induction sources with
  | nil => rfl
  | cons source rest ih =>
      rw [List.flatMap_cons, List.reverse_append, Entries.get?_append, ih,
        Entries.get?_reverse name source.2.distinct, lastDefinition?_cons]
      rfl

/-- Every entry of a merge comes from one of its sources. -/
theorem mem_of_mem_addAll {sources : List (Text × TypeTable)}
    {entry : Text × Value}
    (member : entry ∈ (empty.addAll sources).table.entries) :
    ∃ source ∈ sources, entry ∈ source.2.entries := by
  rw [entries_addAll] at member
  rcases Entries.mem_of_mem_putAll member with inEmpty | inSources
  · exact nomatch inEmpty
  · exact List.mem_flatMap.mp inSources

/-- Sources in a row may be replaced by their merge. -/
theorem table_addAll_merged (front middle back : List (Text × TypeTable))
    (name : Text) :
    (empty.addAll
        (front ++ [(name, (empty.addAll middle).table)] ++ back)).table =
      (empty.addAll (front ++ middle ++ back)).table := by
  have summary : Entries.putAll (empty.addAll front).table.entries
      (empty.addAll middle).table.entries =
        Entries.putAll (empty.addAll front).table.entries
          (middle.flatMap fun source => source.2.entries) := by
    rw [entries_addAll empty middle]
    exact Entries.putAll_ofPairs _ (empty.addAll front).table.distinct
  apply TypeTable.ext
  simp only [addAll_append, entries_addAll _ back]
  rw [entries_addAll (empty.addAll front) middle, ← summary]
  rfl

/-- Two tables in a row hold what the table of all their pairs holds. -/
theorem table_addAll_parts (first second : List (Text × Value))
    (one other : Text) :
    (empty.addAll [(one, .ofPairs first), (other, .ofPairs second)]).table =
      .ofPairs (first ++ second) := by
  have parts := Entries.ofPairs_append_ofPairs first second
  apply TypeTable.ext
  rw [entries_addAll, List.flatMap_cons, List.flatMap_singleton]
  exact parts

end Merge

end PalletTypes
