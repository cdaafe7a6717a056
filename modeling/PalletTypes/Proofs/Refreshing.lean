import PalletTypes.Proofs.Value

/-!
# Merging a merge again

If some of the sources of a merge are replaced by what a file keeps of the
whole merge, the merge of the new sources is kept by a file as the old one is.
No name changes its place, since a replaced source brings all names in the
order of the merge; and no definition changes, since a replaced source brings
the definitions of the merge.  The same holds if the whole merge is added to
the sources, because it then replaces a source without names.
-/

namespace PalletTypes

/-- Sources without names have been put between the others. -/
inductive Padded :
    List (Text × TypeTable) → List (Text × TypeTable) → Prop
  | nil : Padded [] []
  | kept (source : Text × TypeTable) {sources padded} :
      Padded sources padded → Padded (source :: sources) (source :: padded)
  | blank (name : Text) {sources padded} :
      Padded sources padded → Padded sources ((name, .empty) :: padded)

/-- A merge takes no notice of sources without names. -/
theorem Padded.table_addAll {sources padded : List (Text × TypeTable)}
    (padding : Padded sources padded) (front : List (Text × TypeTable)) :
    (Merge.empty.addAll (front ++ padded)).table =
      (Merge.empty.addAll (front ++ sources)).table := by
  have entries : (padded.flatMap fun source => source.2.entries) =
      sources.flatMap fun source => source.2.entries := by
    induction padding with
    | nil => rfl
    | kept source padding ih => rw [List.flatMap_cons, ih, List.flatMap_cons]
    | blank name padding ih => rw [List.flatMap_cons, ih]; rfl
  apply TypeTable.ext
  rw [Merge.entries_addAll, Merge.entries_addAll, List.flatMap_append,
    List.flatMap_append, entries]

/-- Some of the sources are replaced by the whole table. -/
inductive Refreshed (whole : TypeTable) :
    List (Text × TypeTable) → List (Text × TypeTable) → Prop
  | nil : Refreshed whole [] []
  | kept (source : Text × TypeTable) {sources refreshed} :
      Refreshed whole sources refreshed →
        Refreshed whole (source :: sources) (source :: refreshed)
  | replaced (name : Text) (table : TypeTable) {sources refreshed} :
      Refreshed whole sources refreshed →
        Refreshed whole ((name, table) :: sources) ((name, whole) :: refreshed)

namespace Refreshed

variable {whole : TypeTable} {sources refreshed : List (Text × TypeTable)}

theorem append_left (front : List (Text × TypeTable))
    (refresh : Refreshed whole sources refreshed) :
    Refreshed whole (front ++ sources) (front ++ refreshed) := by
  induction front with
  | nil => exact refresh
  | cons source front ih => exact .kept source ih

theorem mem_sourceNames (refresh : Refreshed whole sources refreshed)
    {name : Text} (member : name ∈ sourceNames refreshed) :
    name ∈ sourceNames sources ∨ name ∈ whole.names := by
  induction refresh with
  | nil => exact Or.inl member
  | kept source refresh ih =>
      rw [sourceNames_cons, List.mem_append] at member ⊢
      rcases member with here | later
      · exact Or.inl (Or.inl here)
      · apply (ih later).imp_left
        exact Or.inr
  | replaced source table refresh ih =>
      rw [sourceNames_cons, List.mem_append] at member ⊢
      rcases member with here | later
      · exact Or.inr here
      · apply (ih later).imp_left
        exact Or.inr

/-- Behind any names that came before, refreshed sources give the names of the
whole table their places. -/
theorem firstOccurrences_eq (refresh : Refreshed whole sources refreshed)
    (before : List Text)
    (names : whole.names = firstOccurrences (before ++ sourceNames sources)) :
    firstOccurrences (before ++ sourceNames refreshed) = whole.names := by
  induction refresh generalizing before with
  | nil => exact names.symm
  | kept source refresh ih =>
      rw [sourceNames_cons, ← List.append_assoc] at names ⊢
      exact ih _ names
  | @replaced source table sources refreshed refresh ih =>
      have known : ∀ name ∈ sourceNames refreshed,
          name ∈ before ++ whole.names := by
        intro name member
        rcases refresh.mem_sourceNames member with inSources | inWhole
        · simp [names, inSources]
        · simp [inWhole]
      rw [sourceNames_cons, ← List.append_assoc,
        firstOccurrences_append_of_subset known, names,
        firstOccurrences_append_firstOccurrences]

/-- The last definition among refreshed sources is kept by a file as the one
that the whole table keeps; there is none only where there was none. -/
theorem lastDefinition?_cases (refresh : Refreshed whole sources refreshed)
    {name : Text} {definition : Value}
    (inWhole : whole.get? name = some definition.onFile)
    (latest : ∀ other, lastDefinition? name sources = some other →
      other = definition) :
    (∃ other, lastDefinition? name refreshed = some other ∧
        other.onFile = definition.onFile) ∨
      lastDefinition? name refreshed = none ∧
        lastDefinition? name sources = none := by
  induction refresh with
  | nil => exact Or.inr ⟨rfl, rfl⟩
  | @kept source sources refreshed refresh ih =>
      have latestLater : ∀ other, lastDefinition? name sources = some other →
          other = definition := by
        intro other found
        exact latest other (by rw [lastDefinition?_cons, found, Option.some_or])
      simp only [lastDefinition?_cons] at latest ⊢
      rcases ih latestLater with ⟨other, found, same⟩ | ⟨absent, absentBefore⟩
      · exact Or.inl ⟨other, by rw [found, Option.some_or], same⟩
      · rw [absent, absentBefore, Option.none_or]
        cases here : source.2.get? name with
        | none => exact Or.inr ⟨rfl, rfl⟩
        | some other =>
            have same := latest other (by rw [absentBefore, here, Option.none_or])
            exact Or.inl ⟨other, rfl, by rw [same]⟩
  | @replaced source table sources refreshed refresh ih =>
      have latestLater : ∀ other, lastDefinition? name sources = some other →
          other = definition := by
        intro other found
        exact latest other (by rw [lastDefinition?_cons, found, Option.some_or])
      left
      rcases ih latestLater with ⟨other, found, same⟩ | ⟨absent, _⟩
      · exact ⟨other, by rw [lastDefinition?_cons, found, Option.some_or], same⟩
      · exact ⟨definition.onFile,
          by rw [lastDefinition?_cons, absent, Option.none_or, inWhole],
          Value.onFile_onFile definition⟩

/-- Merging refreshed sources leads to the same file. -/
theorem onFile_addAll {sources refreshed : List (Text × TypeTable)}
    (refresh : Refreshed (Merge.empty.addAll sources).table.onFile sources
      refreshed) :
    (Merge.empty.addAll refreshed).table.onFile =
      (Merge.empty.addAll sources).table.onFile := by
  have names : (Merge.empty.addAll refreshed).table.names =
      (Merge.empty.addAll sources).table.names := by
    have wholeNames : (Merge.empty.addAll sources).table.onFile.names =
        firstOccurrences ([] ++ sourceNames sources) := by
      rw [TypeTable.names_onFile, Merge.names_addAll_empty, List.nil_append]
    have places := refresh.firstOccurrences_eq [] wholeNames
    rw [List.nil_append, TypeTable.names_onFile] at places
    rw [Merge.names_addAll_empty, places]
  apply TypeTable.eq_of_names_of_get?
  · rw [TypeTable.names_onFile, TypeTable.names_onFile, names]
  · intro name
    rw [TypeTable.get?_onFile, TypeTable.get?_onFile]
    cases found : (Merge.empty.addAll sources).table.get? name with
    | none =>
        rw [TypeTable.get?_eq_none_iff, ← names,
          ← TypeTable.get?_eq_none_iff] at found
        rw [found]
    | some definition =>
        have inWhole : (Merge.empty.addAll sources).table.onFile.get? name =
            some definition.onFile := by
          rw [TypeTable.get?_onFile, found, Option.map_some]
        rw [Merge.get?_addAll_empty] at found
        rcases refresh.lastDefinition?_cases inWhole
          (fun other same => Option.some.inj (same.symm.trans found)) with
            ⟨other, foundAgain, same⟩ | ⟨_, absent⟩
        · rw [Merge.get?_addAll_empty, foundAgain, Option.map_some, same,
            Option.map_some]
        · rw [absent] at found
          exact nomatch found

end Refreshed

end PalletTypes
