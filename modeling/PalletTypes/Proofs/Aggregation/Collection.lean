import PalletTypes.Proofs.Aggregation.Sources
import PalletTypes.Proofs.Merge
import PalletTypes.Proofs.TypesFile.Document

/-!
# What a collection holds

If the types file of every pallet can be read, a collection is the merge of the
seeds and of all these files in order: each name at its first place, with the
definition of the last source that has it.
-/

namespace PalletTypes.Aggregation

section

variable {settings : Settings} {files : FileSystem} {place : Place}

/-- The sources of a run, given the table of each pallet. -/
def sourcesOf (settings : Settings) (tables : Text → TypeTable) :
    List (Text × TypeTable) :=
  seeds settings ++ settings.pallets.map fun pallet => (pallet, tables pallet)

/-- The merge of a run holds every name of its sources at its first place,
with the definition of the last source that has it, and lists the sources with
repetitions. -/
theorem collect_of_readable (tables : Text → TypeTable)
    (readable : ∀ pallet ∈ settings.pallets,
      TypesFile.load files place (settings.palletPath pallet) =
        .ok (tables pallet)) :
    let sources := sourcesOf settings tables
    let merge := Merge.empty.addAll sources
    (mergePallets settings files place (seed settings) settings.pallets).2 =
        .ok merge ∧
      (∃ records, collect settings files place =
        (records ++ [sourcesRecord merge], .ok merge.table)) ∧
      merge.table.names = firstOccurrences (sourceNames sources) ∧
      (∀ name, merge.table.get? name = lastDefinition? name sources) ∧
      merge.sources = Settings.runtimeSource :: Settings.customSource ::
        settings.pallets := by
  intro sources merge
  have merged : (mergePallets settings files place (seed settings)
      settings.pallets).2 = .ok merge := by
    rw [mergePallets_result, loadAll_of_readable readable, seed_eq_addAll]
    simp only [Except.map, ← Merge.addAll_append]
    rfl
  refine ⟨merged, ?_, Merge.names_addAll_empty sources,
    Merge.get?_addAll_empty sources, ?_⟩
  · unfold collect
    cases run : mergePallets settings files place (seed settings)
        settings.pallets with
    | mk records result =>
        rw [run] at merged
        simp only at merged
        subst merged
        exact ⟨openingRecords settings ++ records, rfl⟩
  · have listed := Merge.sources_addAll Merge.empty sources
    rw [listed]
    simp [sources, sourcesOf, seeds, Merge.empty, Function.comp_def]

end

/-- Two pallets that share a name, the first of them listed twice. -/
def sharedName : Settings :=
  { baseDir := .ofText ""
    pallets := ["a", "b", "a"]
    runtimeTypes := Settings.defaultRuntimeTypes
    customTypes := Settings.defaultCustomTypes
    logging := {} }

def sharedNameFiles : FileSystem :=
  ⟨[(["scripts"], .directory), (["pallets"], .directory),
    (["pallets", "a"], .directory), (["pallets", "b"], .directory),
    (["pallets", "a", "types.json"],
      .file FileSystem.publicMode "\x7b\"X\":1,\"IpfsCid\":[]\x7d".toUTF8),
    (["pallets", "b", "types.json"],
      .file FileSystem.publicMode "\x7b\"Y\":\"u8\",\"X\":2\x7d".toUTF8)]⟩

def sharedNameTables (pallet : Text) : TypeTable :=
  if pallet = ("a" : Text) then
    .ofPairs [("X", .int 1), ("IpfsCid", .list [])]
  else .ofPairs [("Y", .text "u8"), ("X", .int 2)]

theorem load_sharedName : ∀ pallet ∈ sharedName.pallets,
    TypesFile.load sharedNameFiles ⟨["scripts"], 0⟩
      (sharedName.palletPath pallet) = .ok (sharedNameTables pallet) := by
  have readA : TypesFile.load sharedNameFiles ⟨["scripts"], 0⟩
      (sharedName.palletPath "a") = .ok (sharedNameTables "a") :=
    TypesFile.load_eq_ok_iff.mpr
      ⟨_, by rfl, TypesFile.decode_toUTF8 (by rfl)⟩
  have readB : TypesFile.load sharedNameFiles ⟨["scripts"], 0⟩
      (sharedName.palletPath "b") = .ok (sharedNameTables "b") :=
    TypesFile.load_eq_ok_iff.mpr
      ⟨_, by rfl, TypesFile.decode_toUTF8 (by rfl)⟩
  simp only [sharedName, List.forall_mem_cons]
  exact ⟨readA, readB, readA, fun pallet listed => nomatch listed⟩

theorem collect_sharedName :
    ∃ table, (collect sharedName sharedNameFiles ⟨["scripts"], 0⟩).2 =
        .ok table ∧
      table.names =
        (["Address", "LookupSource", "IpfsCid", "X", "Y"] : List Text) ∧
      table.get? "X" = some (.int 1) ∧
      table.get? "IpfsCid" = some (.list []) ∧
      table.get? "Y" = some (.text "u8") := by
  obtain ⟨_, ⟨records, collected⟩, names, definitions, _⟩ :=
    collect_of_readable sharedNameTables load_sharedName
  refine ⟨_, by rw [collected], ?_, ?_, ?_, ?_⟩
  · rw [names]
    rfl
  · rw [definitions]
    rfl
  · rw [definitions]
    rfl
  · rw [definitions]
    rfl

end PalletTypes.Aggregation
