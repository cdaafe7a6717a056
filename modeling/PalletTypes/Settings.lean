import PalletTypes.Log.Record
import PalletTypes.Path
import PalletTypes.TypeTable

/-!
# Settings of a run

A run is described by the directory that its paths start from, the pallets in
merge order, the two tables that are merged before them, and what is logged
where.  Every path of a run follows from the base directory.
-/

namespace PalletTypes

/-- What is logged where. -/
structure LoggingSettings where
  console : Bool := true
  level : Log.Level := .info
  colors : Bool := true
  file : Bool := false
deriving DecidableEq, Repr

structure Settings where
  baseDir : Path
  pallets : List Text
  runtimeTypes : TypeTable
  customTypes : TypeTable
  logging : LoggingSettings

namespace Settings

def version : String := "0.1.0"

/-- The pallets of the runtime, in merge order. -/
def defaultPallets : List Text :=
  ["donations", "moderation", "permissions", "post-history", "posts",
    "profile-history", "profiles", "reactions", "roles", "scores",
    "session-keys", "space-history", "spaces", "subscriptions", "utils"]

def defaultRuntimeTypes : TypeTable :=
  .ofAliases [("Address", "AccountId"), ("LookupSource", "AccountId")]

def defaultCustomTypes : TypeTable := .ofAliases [("IpfsCid", "Text")]

/-- The name under which the types of the runtime are merged. -/
def runtimeSource : Text := "runtime"

/-- The name under which the custom types are merged. -/
def customSource : Text := "subsocial"

/-- The types file of a pallet, seen from a base directory. -/
def typesFile (baseDir : Path) (pallet : Text) : Path :=
  baseDir.join (.ofText ("../pallets/" ++ pallet ++ "/types.json"))

def palletPath (settings : Settings) (pallet : Text) : Path :=
  typesFile settings.baseDir pallet

/-- The merged types file, seen from a base directory. -/
def mergedFile (baseDir : Path) : Path :=
  baseDir.join (.ofText "../types.json")

def outputPath (settings : Settings) : Path := mergedFile settings.baseDir

/-- The log file, seen from the working directory. -/
def logFile : Path := .ofText "logs/subsocial_types.csv"

def madeRecord (settings : Settings) : Log.Record :=
  { level := .debug
    logger := Log.Logger.settings
    message :=
      "Settings initialized with " ++ Text.ofNat settings.pallets.length ++
        " pallets, base directory: " ++ settings.baseDir.text }

end Settings

end PalletTypes
