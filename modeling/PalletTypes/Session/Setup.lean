import PalletTypes.Session

/-!
# Setting up the log

Setting up the log removes the handlers of before and installs a console
handler and a file handler, as the settings ask for.  Everything passes from
then on, so the handlers' own thresholds decide.  A log file that cannot be
opened is reported, and the run goes on without it.
-/

namespace PalletTypes.Session

def setupRecord (message : Text) : Log.Record :=
  { level := .debug, logger := Log.Logger.setup, message := message }

/-- The handlers of the console that settings ask for. -/
def consoleHandlers (settings : LoggingSettings) : List Log.Handler :=
  if settings.console then [.console settings.level settings.colors] else []

/-- The absolute path of the log file. -/
def logPath (place : Place) : Path :=
  (Path.ofNames .absolute place.location).join Settings.logFile

/-- Open the log file for appending, and make it and its directory if they are
missing.  The directory stays even if the file cannot be opened. -/
def openLog (files : FileSystem) (place : Place) :
    FileSystem × Except Failure Log.LogFile :=
  match files.makeDirectories place Settings.logFile.parent with
  | (files, .error failure) => (files, .error failure)
  | (files, .ok ()) =>
      let path := logPath place
      match files.openFile place path with
      | .error error => (files, .error (.ofAccess path error))
      | .ok (location, files) => (files, .ok ⟨path, location, .attached⟩)

def openingFailedRecord (failure : Failure) : Log.Record :=
  { level := .warning
    logger := Log.Logger.root
    message := "Could not setup file logging: " ++ failure.message }

def setupConsole (session : Session) (settings : LoggingSettings) : Session :=
  { session with
    logging :=
      { rootThreshold := .debug
        projectThreshold := some .debug
        handlers := consoleHandlers settings } }

/-- Install the file handler, and give the path of the log file if it could be
opened. -/
def setupFile (session : Session) : Session × Option Path :=
  let (files, result) := openLog session.files session.place
  let session := { session with files := files }
  match result with
  | .ok log =>
      let handlers := session.logging.handlers ++ [.file log]
      let logging := { session.logging with handlers := handlers }
      ({ session with logging := logging }, some log.path)
  | .error failure => (session.emit (openingFailedRecord failure), none)

def switchText (on : Bool) : String := if on then "True" else "False"

def setupRecords (settings : LoggingSettings) (file : Option Path) :
    List Log.Record :=
  [setupRecord "Logging initialized"] ++
    (if settings.console then
      [setupRecord ("Console logging: " ++ settings.level.name ++
        " (colors: " ++ switchText settings.colors ++ ")")]
    else []) ++
    (match file with
    | some path => [setupRecord ("File logging: DEBUG at " ++ path.text)]
    | none => [])

def setupLogging (session : Session) (settings : LoggingSettings) : Session :=
  let session := session.setupConsole settings
  let (session, file) :=
    if settings.file then session.setupFile else (session, none)
  session.emitAll (setupRecords settings file)

end PalletTypes.Session
