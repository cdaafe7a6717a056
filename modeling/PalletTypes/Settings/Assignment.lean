import PalletTypes.Failure
import PalletTypes.FileSystem
import PalletTypes.Settings
import PalletTypes.Text.UpperCase

/-!
# Making and changing settings

Settings are made from what a caller gives and from defaults for the rest, and
are changed by assignments.  A switch takes the truth of any value.  A level
takes a text whose upper case names a level; another text changes nothing and
is reported, and what is no text is an error.  The properties that only follow
from others cannot be assigned.
-/

namespace PalletTypes

inductive LoggingAssignment where
  | console (value : Value)
  | level (value : Value)
  | colors (value : Value)
  | file (value : Value)
  /-- A property that only follows from others. -/
  | fixed (property : Text)

inductive Assignment where
  | baseDir (value : Value)
  | logging (assignment : LoggingAssignment)
  /-- A property that only follows from others. -/
  | fixed (property : Text)

namespace LoggingAssignment

/-- The properties that follow from others. -/
def fixedProperties : List Text :=
  ["log_file_path", "log_file_absolute_path"]

/-- The assignment of a setting of the log by its name. -/
def ofSetting? (name : Text) (value : Value) : Option LoggingAssignment :=
  if name = "console_logging" then some (.console value)
  else if name = "console_log_level" then some (.level value)
  else if name = "console_use_colors" then some (.colors value)
  else if name = "file_logging" then some (.file value)
  else none

/-- The assignment of a property by its name; any other name stands for
nothing. -/
def ofName? (name : Text) (value : Value) : Option LoggingAssignment :=
  if name ∈ fixedProperties then some (.fixed name) else ofSetting? name value

end LoggingAssignment

namespace Assignment

/-- The properties that follow from others. -/
def fixedProperties : List Text :=
  ["paths", "pallets", "logging", "output_path", "modules", "runtime_types",
    "custom_types", "log_file_path", "log_file_absolute_path"]

/-- The assignment of a property by its name; any other name stands for
nothing. -/
def ofName? (name : Text) (value : Value) : Option Assignment :=
  if name = "base_dir" then some (.baseDir value)
  else if name ∈ fixedProperties then some (.fixed name)
  else (LoggingAssignment.ofSetting? name value).map .logging

end Assignment

/-- What an assignment leads to: the settings, the records that were made, and
the failure, if it failed. -/
structure Assigned (σ : Type) where
  settings : σ
  records : List Log.Record := []
  failure : Option Failure := none

namespace LoggingSettings

/-- The level that a text names in any case. -/
def levelOf? (text : Text) : Option Log.Level :=
  Log.Level.ofName? text.upper

def rejectedRecord (settings : LoggingSettings) (text : Text) : Log.Record :=
  { level := .warning
    logger := Log.Logger.loggingSettings
    message :=
      "Invalid console log level: " ++ text ++ ", keeping current: " ++
        settings.level.name }

def assign (settings : LoggingSettings) :
    LoggingAssignment → Assigned LoggingSettings
  | .console value =>
      { settings := { settings with console := value.isTruthy } }
  | .colors value =>
      { settings := { settings with colors := value.isTruthy } }
  | .file value =>
      { settings := { settings with file := value.isTruthy } }
  | .level (.text content) =>
      match levelOf? content with
      | none =>
          { settings := settings
            records := [settings.rejectedRecord content] }
      | some level => { settings := { settings with level := level } }
  | .level value =>
      { settings := settings, failure := some (.notLevel value.kind) }
  | .fixed property =>
      { settings := settings
        failure := some (.fixed property "LoggingSettings") }

end LoggingSettings

namespace Settings

def assignLogging (settings : Settings) (assignment : LoggingAssignment) :
    Assigned Settings :=
  let assigned := settings.logging.assign assignment
  { settings := { settings with logging := assigned.settings }
    records := assigned.records
    failure := assigned.failure }

/-- The base directory that a value spells. -/
def baseDirOf : Value → Except Failure Path
  | .text content => .ok (.ofText content)
  | value => .error (.notPath value.kind)

def assign (settings : Settings) : Assignment → Assigned Settings
  | .baseDir value =>
      match baseDirOf value with
      | .ok baseDir => { settings := { settings with baseDir := baseDir } }
      | .error failure => { settings := settings, failure := some failure }
  | .logging assignment => settings.assignLogging assignment
  | .fixed property =>
      { settings := settings, failure := some (.fixed property "AppSettings") }

/-- Carry out assignments up to the first that fails. -/
def assignAll (settings : Settings) :
    List Assignment → List Log.Record × Except Failure Settings
  | [] => ([], .ok settings)
  | assignment :: rest =>
      let assigned := settings.assign assignment
      match assigned.failure with
      | some failure => (assigned.records, .error failure)
      | none =>
          let (records, result) := assigned.settings.assignAll rest
          (assigned.records ++ records, result)

end Settings

/-- What a caller gives to make settings from. -/
structure SettingsRequest where
  baseDir : Option Value := none
  pallets : Option (List Text) := none
  runtimeTypes : Option TypeTable := none
  customTypes : Option TypeTable := none
  assignments : List Assignment := []

namespace SettingsRequest

/-- The base directory: the one given, or the working directory. -/
def base (request : SettingsRequest) (place : Place) : Except Failure Path :=
  match request.baseDir with
  | some value => Settings.baseDirOf value
  | none =>
      match place.path? with
      | some path => .ok path
      | none => .error .noWorkingDirectory

def initial (request : SettingsRequest) (baseDir : Path) : Settings :=
  { baseDir := baseDir
    pallets := request.pallets.getD Settings.defaultPallets
    runtimeTypes := request.runtimeTypes.getD Settings.defaultRuntimeTypes
    customTypes := request.customTypes.getD Settings.defaultCustomTypes
    logging := {} }

def make (request : SettingsRequest) (place : Place) :
    List Log.Record × Except Failure Settings :=
  match request.base place with
  | .error failure => ([], .error failure)
  | .ok baseDir =>
      let settings := request.initial baseDir
      let (records, result) := settings.assignAll request.assignments
      (settings.madeRecord :: records, result)

end SettingsRequest

end PalletTypes
