import PalletTypes.Merge
import PalletTypes.Settings
import PalletTypes.Text.Quoted
import PalletTypes.TypesFile.Read
import PalletTypes.TypesFile.Write

/-!
# Aggregation

A run merges the types of the runtime, the custom types and then the types
file of every pallet in order, and writes the merged table to one file.  All
reading happens before the one writing, and the first file that fails ends the
run.
-/

namespace PalletTypes.Aggregation

open TypesFile (Report Outcome)

/-- The runtime and custom types, merged in this order. -/
def seed (settings : Settings) : Merge :=
  (Merge.empty.add Settings.runtimeSource settings.runtimeTypes).add
    Settings.customSource settings.customTypes

/-- A record of the aggregation. -/
def say (level : Log.Level) (message : Text) : Log.Record :=
  { level := level, logger := Log.Logger.aggregation, message := message }

/-- The records of the start of an aggregation. -/
def openingRecords (settings : Settings) : List Log.Record :=
  [Merge.record Settings.runtimeSource settings.runtimeTypes,
    Merge.record Settings.customSource settings.customTypes,
    say .info
      ("Aggregating types from " ++ Text.ofNat settings.pallets.length ++
        " pallets")]

/-- Read and merge the types files of pallets, up to the first that fails. -/
def mergePallets (settings : Settings) (files : FileSystem) (place : Place)
    (merge : Merge) : List Text → Report Merge
  | [] => ([], .ok merge)
  | pallet :: rest =>
      match TypesFile.read files place (settings.palletPath pallet) with
      | (records, .error failure) => (records, .error failure)
      | (records, .ok table) =>
          let (later, result) :=
            mergePallets settings files place (merge.add pallet table) rest
          (records ++ Merge.record pallet table :: later, result)

/-- The record of all sources that have been merged. -/
def sourcesRecord (merge : Merge) : Log.Record :=
  say .debug ("Merged sources: " ++ Text.quotedList merge.sources)

/-- Merge all sources without writing anything. -/
def collect (settings : Settings) (files : FileSystem) (place : Place) :
    Report TypeTable :=
  match mergePallets settings files place (seed settings) settings.pallets with
  | (records, .error failure) =>
      (openingRecords settings ++ records, .error failure)
  | (records, .ok merge) =>
      (openingRecords settings ++ records ++ [sourcesRecord merge],
        .ok merge.table)

/-- The record of a table that has been written. -/
def writtenRecord (table : TypeTable) (path : Path) : Log.Record :=
  say .info ("Wrote " ++ Text.ofNat table.size ++ " types to " ++ path.text)

/-- Merge all sources and write the merged table; gives the path written. -/
def aggregate (settings : Settings) (files : FileSystem) (place : Place)
    (temporary : Text) : Outcome Path :=
  match collect settings files place with
  | (records, .error failure) => ⟨files, records, .error failure⟩
  | (records, .ok table) =>
      let path := settings.outputPath
      let written := TypesFile.write files place temporary true table path
      match written.result with
      | .error failure =>
          ⟨written.files, records ++ written.records, .error failure⟩
      | .ok _ =>
          ⟨written.files,
            records ++ written.records ++ [writtenRecord table path],
            .ok path⟩

end PalletTypes.Aggregation
