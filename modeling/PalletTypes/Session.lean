import PalletTypes.Aggregation
import PalletTypes.FileSystem.Tree
import PalletTypes.Log.Handler
import PalletTypes.Settings.Assignment
import PalletTypes.Settings.Validation

/-!
# Sessions

A session is the state in which the program runs: the file system, the working
directory, where the log goes, what has been written to the console, and every
record that has been made.  The operations of the library give records; a
session delivers them to the handlers that are installed.

The name of a temporary file is picked by the system, among those that are
free; a session holds the way in which it is picked.
-/

namespace PalletTypes

/-- The state in which the program runs. -/
structure Session where
  files : FileSystem
  place : Place
  logging : Log.Configuration := {}
  stamp : Log.Stamp := {}
  console : Text := []
  made : List Log.Record := []
  pickName : FileSystem → Place → Path → Text := TypesFile.freeName

namespace Session

/-- Write a line to the console.  A line with a fault is lost. -/
def writeLine (session : Session) : Except Log.Fault Text → Session
  | .error _ => session
  | .ok line => { session with console := session.console ++ line ++ "\n" }

/-- Hand an entry to a handler, if its level reaches the threshold. -/
def handle (entry : Log.Entry) (level : Log.Level) (session : Session)
    (handler : Log.Handler) : Session × Log.Handler :=
  if handler.threshold ≤ level then
    match handler with
    | .console _ colored =>
        (session.writeLine (Log.consoleLine colored entry), handler)
    | .file log =>
        let (files, log) := log.append session.files (Log.fileRow entry)
        ({ session with files := files }, .file log)
  else (session, handler)

/-- Hand an entry to handlers in turn. -/
def handleAll (entry : Log.Entry) (level : Log.Level) (session : Session) :
    List Log.Handler → Session × List Log.Handler
  | [] => (session, [])
  | handler :: rest =>
      let (session, handler) := session.handle entry level handler
      let (session, rest) := session.handleAll entry level rest
      (session, handler :: rest)

/-- Hand a record to the handlers, if it passes. -/
def deliver (session : Session) (record : Log.Record) : Session :=
  if session.logging.passes record then
    let entry := record.entry session.stamp
    match session.logging.handlers with
    | [] =>
        if Log.Level.warning ≤ record.level then
          session.writeLine (Log.bareLine entry)
        else session
    | handlers =>
        let (after, handlers) := session.handleAll entry record.level handlers
        { after with logging := { after.logging with handlers := handlers } }
  else session

def emit (session : Session) (record : Log.Record) : Session :=
  { session with made := session.made ++ [record] }.deliver record

def emitAll (session : Session) (records : List Log.Record) : Session :=
  records.foldl emit session

/-- Detach the log file if it has gone from its location. -/
def detach (session : Session) (gone : Location → Bool) : Session :=
  let handlers := session.logging.handlers.map
    (Log.Handler.detach gone session.files)
  { session with logging := { session.logging with handlers := handlers } }

/-- Remove what a path leads to.  The session may stand in a directory that
goes, and so may the log file. -/
def remove (session : Session) (path : Path) :
    Session × Except Failure Unit :=
  let (files, result) := session.files.remove session.place path
  let gone (location : Location) : Bool := (files.node? location).isNone
  ({ session.detach gone with
      files := files
      place := session.place.within files }, result)

def makeSettings (session : Session) (request : SettingsRequest) :
    Session × Except Failure Settings :=
  let (records, result) := request.make session.place
  (session.emitAll records, result)

def readyLoader (session : Session) : Session :=
  session.emit TypesFile.readyRecord

def load (session : Session) (path : Path) :
    Session × Except Failure TypeTable :=
  let session := session.readyLoader
  let (records, result) := TypesFile.read session.files session.place path
  (session.emitAll records, result)

/-- Write a types file.  A log file that stood at its path is detached. -/
def store (session : Session) (removable : Bool) (table : TypeTable)
    (path : Path) : Session × Except Failure Nat :=
  let temporary := session.pickName session.files session.place path
  let target := session.files.landing session.place path
  let written := TypesFile.write session.files session.place temporary
    removable table path
  let replaced (location : Location) : Bool :=
    written.result.isOk && target.toOption == some location
  let session := { session.detach replaced with files := written.files }
  (session.emitAll written.records, written.result)

def collect (session : Session) (settings : Settings) :
    Session × Except Failure TypeTable :=
  let session := session.readyLoader
  let (records, result) :=
    Aggregation.collect settings session.files session.place
  (session.emitAll records, result)

def aggregate (session : Session) (settings : Settings) :
    Session × Except Failure Path :=
  let session := session.readyLoader
  let temporary :=
    session.pickName session.files session.place settings.outputPath
  let outcome := Aggregation.aggregate settings session.files session.place
    temporary
  let session := { session with files := outcome.files }
  (session.emitAll outcome.records, outcome.result)

end Session

end PalletTypes
