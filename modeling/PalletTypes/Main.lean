import PalletTypes.Session.Run
import Std.Time.DateTime

/-!
# The command line

The program observes the files that a run with default settings can meet, runs
on what it has seen, prints what the run has written to the console, and puts
the merged file in its place if the run has written one.
-/

namespace PalletTypes.CommandLine

def locationText (location : Location) : String :=
  (Path.ofNames .absolute location).text.printed

/-- Add what stands at a location to what has been seen. -/
def observe (files : FileSystem) (location : Location) : IO FileSystem := do
  let path := (← IO.currentDir) / locationText location
  if ← path.isDir then
    return files.put location .directory
  else if ← path.pathExists then
    return files.put location
      (.file FileSystem.publicMode (← IO.FS.readBinFile path))
  else
    return files

/-- The locations that a run meets below the parent of its base directory, a
directory before its content. -/
def observedLocations (parent : Location) : List Location :=
  let file : Text := "types.json"
  let pallets := parent ++ [Text.ofString "pallets"]
  [parent ++ [file], pallets] ++
    Settings.defaultPallets.flatMap fun pallet =>
      [pallets ++ [pallet], pallets ++ [pallet, file]]

/-- Put a file in its place by way of a temporary one beside it. -/
def publish (location : Location) (content : ByteArray) : IO Unit := do
  let directory := (← IO.currentDir) / locationText location.dropLast
  let mark := Text.ofNat (← IO.rand 10000000 99999999)
  let staged := directory / (TypesFile.temporaryName mark).printed
  IO.FS.writeBinFile staged content
  IO.setAccessRights staged
    { user := { read := true, write := true }
      group := { read := true }
      other := { read := true } }
  IO.FS.rename staged (directory / (location.getLastD []).printed)

/-- The time that the records of a run get. -/
def currentStamp : IO Log.Stamp := do
  let now ← Std.Time.Timestamp.now
  return { seconds := .ofInt now.toSecondsSinceUnixEpoch.val }

/-- Run in the working directory, and give the exit status. -/
def run : IO Nat := do
  let stamp ← currentStamp
  let here ← IO.currentDir
  let path := Path.ofText here.toString
  let location := path.names
  let parent := location.dropLast
  let mut files := (FileSystem.empty.makeDirectories .top path).1
  for observed in observedLocations parent do
    files ← observe files observed
  let session : Session :=
    { files := files, place := ⟨location, 0⟩, stamp := stamp }
  let (session, status) := session.run .standalone {}
  if status = Session.exitSuccess then
    let target := parent ++ [Text.ofString "types.json"]
    if let some (.file _ content) := session.files.node? target then
      publish target content
  IO.eprint session.console.printed
  return status

end PalletTypes.CommandLine

/-- Merge the types of all pallets of the repository around the working
directory. -/
def main : IO UInt32 := do
  return (← PalletTypes.CommandLine.run).toUInt32
