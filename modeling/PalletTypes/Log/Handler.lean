import PalletTypes.Log.File
import PalletTypes.Log.Format
import PalletTypes.Log.Record

/-!
# Handlers of the log

A record passes if its level reaches the threshold of its logger; then every
handler takes it whose own threshold it reaches.  The console handler writes
a line, the file handler appends a row.  Where there is no handler at all, the
bare message of a warning or an error still reaches the console.
-/

namespace PalletTypes.Log

structure Stamp where
  seconds : Binary64 := .zero
  milliseconds : Binary64 := .zero
  elapsed : Binary64 := .zero

/-- The entry of a record that is logged at the given time. -/
def Record.entry (record : Record) (stamp : Stamp) : Entry :=
  { logger := record.logger
    level := record.level.name
    line := 0
    template := record.message
    arguments := []
    seconds := stamp.seconds
    milliseconds := stamp.milliseconds
    elapsed := stamp.elapsed
    failure := .ok record.failure }

inductive Handler where
  | console (threshold : Level) (colored : Bool)
  | file (log : LogFile)
deriving DecidableEq

namespace Handler

/-- The threshold of a handler; a log file takes everything. -/
def threshold : Handler → Level
  | .console threshold _ => threshold
  | .file _ => .debug

/-- Detach the log file if it has gone from its location. -/
def detach (gone : Location → Bool) (files : FileSystem) : Handler → Handler
  | .file log => .file (log.detach gone files)
  | handler => handler

end Handler

/-- Which records pass, and what takes them. -/
structure Configuration where
  rootThreshold : Level := .warning
  projectThreshold : Option Level := none
  handlers : List Handler := []

namespace Configuration

def isProjectLogger (logger : Text) : Bool :=
  logger == projectLogger || (projectLogger ++ ".").isPrefixOf logger

/-- The threshold of a logger: that of the program for its loggers, if it has
one, and the general one otherwise. -/
def threshold (configuration : Configuration) (logger : Text) : Level :=
  if isProjectLogger logger then
    configuration.projectThreshold.getD configuration.rootThreshold
  else configuration.rootThreshold

def passes (configuration : Configuration) (record : Record) : Bool :=
  configuration.threshold record.logger ≤ record.level

end Configuration

def consoleLine (colored : Bool) (entry : Entry) : Except Fault Text :=
  if colored then coloredLine .console .clock entry
  else plainLine .console .clock entry

/-- The line of a record where no handler is installed. -/
def bareLine (entry : Entry) : Except Fault Text :=
  plainLine .bare .precise entry

def fileRow (entry : Entry) : Except Fault Text := row .dated entry

end PalletTypes.Log
