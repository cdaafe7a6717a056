import PalletTypes.Session.Setup

/-!
# Runs of the program

A run makes its settings, sets up the log, validates the settings and
aggregates.  Its exit status is 0 if the merged file has been written and 1
otherwise.
-/

namespace PalletTypes.Session

/-- How a run was started: as a part of another program or on its own. -/
inductive Start where
  | embedded
  | standalone
deriving DecidableEq, Repr

def Start.logger : Start → Text
  | .embedded => Log.Logger.embedded
  | .standalone => Log.Logger.standalone

def Start.say (start : Start) (level : Log.Level) (message : Text) :
    Log.Record :=
  { level := level, logger := start.logger, message := message }

/-- The record of a failure that no types file is to blame for. -/
def Start.unhandledRecord (start : Start) (failure : Failure) : Log.Record :=
  { start.say .error "Unhandled exception in main" with
    failure := some failure.logEntry }

/-- A list of findings under a headline, or nothing if there are none. -/
def Start.findings (start : Start) (level : Log.Level) (headline : Text)
    (findings : List Text) : List Log.Record :=
  if findings.isEmpty then []
  else start.say level headline ::
    findings.map fun finding => start.say level ("  " ++ finding)

/-- The exit status of a run that ends with an error. -/
def exitFailure : Nat := 1

/-- The exit status of a run that has written the merged file. -/
def exitSuccess : Nat := 0

def fail (session : Session) (start : Start) (failure : Failure) :
    Session × Nat :=
  match failure with
  | .types error =>
      (session.emit (start.say .error
        ("Type aggregation failed: " ++ error.message)), exitFailure)
  | failure => (session.emit (start.unhandledRecord failure), exitFailure)

/-- Aggregate with settings that have been validated. -/
def runAggregation (session : Session) (start : Start) (settings : Settings) :
    Session × Nat :=
  match session.aggregate settings with
  | (session, .error failure) => session.fail start failure
  | (session, .ok _) =>
      (session.emit (start.say .info "Type aggregation completed"), exitSuccess)

/-- Validate settings and aggregate if they are valid. -/
def runValidated (session : Session) (start : Start) (settings : Settings) :
    Session × Nat :=
  match settings.validate session.files session.place with
  | .error failure => session.fail start failure
  | .ok validation =>
      let session := session.emitAll (start.findings .warning
        "Configuration warnings detected:" validation.warnings)
      if validation.isValid then session.runAggregation start settings
      else
        (session.emitAll (start.findings .error
          "Configuration validation failed:" validation.errors), exitFailure)

/-- A run with settings of its own making. -/
def run (session : Session) (start : Start) (request : SettingsRequest) :
    Session × Nat :=
  match session.makeSettings request with
  | (session, .error failure) => session.fail start failure
  | (session, .ok settings) =>
      let session := session.setupLogging settings.logging
      let session := session.emit (start.say .info
        ("Starting subsocial-types " ++ Settings.version))
      session.runValidated start settings

end PalletTypes.Session
