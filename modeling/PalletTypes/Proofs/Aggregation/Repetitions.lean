import PalletTypes.Proofs.Aggregation.Collection
import PalletTypes.Proofs.Occurrences

/-!
# Pallets listed more than once

A repetition of a pallet matters, since the places of the names and their
definitions follow opposite occurrences.  The names are ordered as if each
pallet were listed only where it occurs first; their definitions are those
that remain if each pallet is listed only where it occurs last.
-/

namespace PalletTypes

open Aggregation (sourcesIn)

section

variable (tables : Text → TypeTable) (pallets : List Text)

theorem sourceNames_sourcesIn :
    sourceNames (sourcesIn tables pallets) =
      pallets.flatMap fun pallet => (tables pallet).names := by
  simp [sourceNames, sourcesIn, List.flatMap_map]

theorem lastDefinition?_sourcesIn (name : Text) :
    lastDefinition? name (sourcesIn tables pallets) =
      pallets.reverse.findSome? fun pallet => (tables pallet).get? name := by
  simp [lastDefinition?, sourcesIn, ← List.map_reverse, List.findSome?_map,
    Function.comp_def]

namespace Merge

/-- The names of a merge stay where they are if later repetitions of pallets
are dropped. -/
theorem names_addAll_firstOccurrences (front : List (Text × TypeTable)) :
    (empty.addAll (front ++ sourcesIn tables (firstOccurrences pallets))
      ).table.names =
      (empty.addAll (front ++ sourcesIn tables pallets)).table.names := by
  have sameNames := firstOccurrences_flatMap pallets fun pallet =>
    (tables pallet).names
  rw [names_addAll_empty, names_addAll_empty, sourceNames_append,
    sourceNames_append, firstOccurrences_append, firstOccurrences_append,
    sourceNames_sourcesIn, sourceNames_sourcesIn, sameNames]

/-- The definitions of a merge stay as they are if earlier repetitions of
pallets are dropped. -/
theorem get?_addAll_lastOccurrences (front : List (Text × TypeTable))
    (name : Text) :
    (empty.addAll (front ++ sourcesIn tables (lastOccurrences pallets))
      ).table.get? name =
      (empty.addAll (front ++ sourcesIn tables pallets)).table.get? name := by
  rw [get?_addAll_empty, get?_addAll_empty, lastDefinition?_append,
    lastDefinition?_append, lastDefinition?_sourcesIn,
    lastDefinition?_sourcesIn, findSome?_reverse_lastOccurrences]

end Merge

end

namespace Aggregation

/-- A list of pallets with repetitions leads to the names of the list without
its later repetitions, in their order, and to the definitions of the list
without its earlier ones. -/
theorem collect_of_repeated (settings : Settings) (files : FileSystem)
    (place : Place)
    (readable : ∀ pallet ∈ settings.pallets,
      IsReadable settings files place pallet) :
    ∃ table ordered defined,
      (collect settings files place).2 = .ok table ∧
      (collect
        { settings with pallets := firstOccurrences settings.pallets }
        files place).2 = .ok ordered ∧
      (collect
        { settings with pallets := lastOccurrences settings.pallets }
        files place).2 = .ok defined ∧
      table.names = ordered.names ∧
      ∀ name, table.get? name = defined.get? name := by
  have readableFirst : ∀ pallet ∈ firstOccurrences settings.pallets,
      IsReadable settings files place pallet := fun pallet listed =>
    readable pallet (mem_firstOccurrences.mp listed)
  have readableLast : ∀ pallet ∈ lastOccurrences settings.pallets,
      IsReadable settings files place pallet := fun pallet listed =>
    readable pallet (mem_lastOccurrences.mp listed)
  refine ⟨_, _, _, collect_of_isReadable readable,
    collect_of_isReadable readableFirst, collect_of_isReadable readableLast,
    ?_, fun name => ?_⟩
  · exact (Merge.names_addAll_firstOccurrences _ _ (seeds settings)).symm
  · exact (Merge.get?_addAll_lastOccurrences _ _ (seeds settings) name).symm

/-- Neither way of dropping repetitions would do for both: the first occurrences
give another definition to a name, the last ones put the names in another
order. -/
theorem collect_of_repeated_sharedName :
    ∃ table ordered defined,
      (collect sharedName sharedNameFiles ⟨["scripts"], 0⟩).2 = .ok table ∧
      (collect { sharedName with pallets := ["a", "b"] } sharedNameFiles
        ⟨["scripts"], 0⟩).2 = .ok ordered ∧
      (collect { sharedName with pallets := ["b", "a"] } sharedNameFiles
        ⟨["scripts"], 0⟩).2 = .ok defined ∧
      table.names = ordered.names ∧
      (∀ name, table.get? name = defined.get? name) ∧
      ordered.get? "X" = some (.int 2) ∧ table.get? "X" = some (.int 1) ∧
      defined.names =
        (["Address", "LookupSource", "IpfsCid", "Y", "X"] : List Text) := by
  have collectFirst : (collect { sharedName with pallets := ["a", "b"] }
      sharedNameFiles ⟨["scripts"], 0⟩).2 = _ :=
    collect_of_tables fun pallet listed =>
      load_sharedName pallet (List.dropLast_subset _ listed)
  have collectLast : (collect { sharedName with pallets := ["b", "a"] }
      sharedNameFiles ⟨["scripts"], 0⟩).2 = _ :=
    collect_of_tables fun pallet listed =>
      load_sharedName pallet (List.mem_of_mem_tail listed)
  obtain ⟨table, ordered, defined, collected, first, last, names,
    definitions⟩ := collect_of_repeated sharedName sharedNameFiles
      ⟨["scripts"], 0⟩ fun pallet listed => ⟨_, load_sharedName pallet listed⟩
  cases first.symm.trans collectFirst
  cases last.symm.trans collectLast
  refine ⟨table, _, _, collected, first, last, names, definitions, ?_, ?_, ?_⟩
  · exact (Merge.get?_addAll_empty _ _).trans (by rfl)
  · exact (definitions _).trans ((Merge.get?_addAll_empty _ _).trans (by rfl))
  · exact (Merge.names_addAll_empty _).trans (by rfl)

end Aggregation

end PalletTypes
