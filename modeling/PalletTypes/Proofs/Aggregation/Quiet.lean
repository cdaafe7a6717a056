import PalletTypes.Proofs.TypesFile.Endings
import PalletTypes.Aggregation

/-!
# What an aggregation says

An aggregation makes no warning and no error, also when it fails; what went
wrong is told by its result alone.  Only a temporary file that cannot be
removed is worth a warning.
-/

namespace PalletTypes

/-- The record is neither a warning nor an error. -/
def Log.Record.IsQuiet (record : Log.Record) : Prop :=
  ¬Log.Level.warning ≤ record.level

namespace Log.Record.IsQuiet

theorem of_debug {record : Log.Record} (level : record.level = .debug) :
    record.IsQuiet := by
  unfold IsQuiet
  rw [level]
  decide

theorem of_info {record : Log.Record} (level : record.level = .info) :
    record.IsQuiet := by
  unfold IsQuiet
  rw [level]
  decide

end Log.Record.IsQuiet

namespace TypesFile

/-- A writing that can remove its temporary file is quiet. -/
theorem quiet_write (files : FileSystem) (place : Place) (temporary : Text)
    (table : TypeTable) (path : Path) :
    ∀ record ∈ (write files place temporary true table path).records,
      record.IsQuiet := by
  have ending := ending_write files place temporary true table path
  generalize write files place temporary true table path = written at ending
  cases ending with
  | leftover staged refused kept => exact nomatch kept
  | landed staged landing =>
      rw [List.forall_mem_singleton]
      exact .of_debug rfl
  | _ => exact fun record member => nomatch member

end TypesFile

namespace Aggregation

theorem quiet_mergePallets (settings : Settings) (files : FileSystem)
    (place : Place) (merge : Merge) (pallets : List Text) :
    ∀ record ∈ (mergePallets settings files place merge pallets).1,
      record.IsQuiet := by
  induction pallets generalizing merge with
  | nil => exact fun record member => nomatch member
  | cons pallet rest ih =>
      unfold mergePallets TypesFile.read
      cases TypesFile.load files place (settings.palletPath pallet) with
      | error failure => exact fun record member => nomatch member
      | ok table =>
          simp only [List.cons_append, List.nil_append, List.forall_mem_cons]
          exact ⟨.of_debug rfl, .of_debug rfl, ih _⟩

theorem quiet_collect (settings : Settings) (files : FileSystem)
    (place : Place) :
    ∀ record ∈ (collect settings files place).1, record.IsQuiet := by
  have merging := quiet_mergePallets settings files place (seed settings)
    settings.pallets
  have opening : ∀ record ∈ openingRecords settings, record.IsQuiet := by
    simp only [openingRecords, List.forall_mem_cons]
    exact ⟨.of_debug rfl, .of_debug rfl, .of_info rfl,
      fun record member => nomatch member⟩
  unfold collect
  cases run : mergePallets settings files place (seed settings)
      settings.pallets with
  | mk records result =>
      rw [run] at merging
      cases result with
      | error failure =>
          simp only [List.forall_mem_append]
          exact ⟨opening, merging⟩
      | ok merge =>
          simp only [List.forall_mem_append, List.forall_mem_singleton]
          exact ⟨⟨opening, merging⟩, .of_debug rfl⟩

/-- Neither success nor failure of an aggregation shows in a warning. -/
theorem quiet_aggregate (settings : Settings) (files : FileSystem)
    (place : Place) (temporary : Text) :
    ∀ record ∈ (aggregate settings files place temporary).records,
      record.IsQuiet := by
  have collecting := quiet_collect settings files place
  unfold aggregate
  cases run : collect settings files place with
  | mk records result =>
      rw [run] at collecting
      cases result with
      | error failure => exact collecting
      | ok table =>
          have writing := TypesFile.quiet_write files place temporary table
            settings.outputPath
          simp only
          split
          · simp only [List.forall_mem_append]
            exact ⟨collecting, writing⟩
          · simp only [List.forall_mem_append, List.forall_mem_singleton]
            exact ⟨⟨collecting, writing⟩, .of_info rfl⟩

end Aggregation

end PalletTypes
