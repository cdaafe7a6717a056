import PalletTypes.Log.Level

/-!
# Log records

A record is what a part of the program has to say: a level, the name of the
logger that speaks, a message, and the failure that it reports, if any.  The
logger names are those that the log shows.
-/

namespace PalletTypes.Log

/-- One entry of the log, before it gets its time. -/
structure Record where
  level : Level
  logger : Text
  message : Text
  failure : Option Text := none
deriving DecidableEq, Repr

/-- The logger above all loggers of the program. -/
def projectLogger : Text := "subsocial_types"

def logger (part : String) : Text := projectLogger ++ "." ++ part

namespace Logger

/-- Speaks when settings are made. -/
def settings : Text := logger "settings.core"

/-- Speaks when a setting of the log is rejected. -/
def loggingSettings : Text := logger "settings.logging"

/-- Speaks when types files are read. -/
def loader : Text := logger "aggregation.loaders.TypesFileLoader"

/-- Speaks when tables are merged. -/
def merge : Text := logger "aggregation.managers.TypesAccumulator"

/-- Speaks for an aggregation as a whole. -/
def aggregation : Text :=
  logger "aggregation.service.TypeAggregationService"

/-- Speaks when types files are written. -/
def writer : Text := logger "aggregation.writers.TypesFileWriter"

/-- Speaks when a temporary file stays behind. -/
def cleanup : Text := logger "aggregation.writers"

/-- Speaks when the log is set up. -/
def setup : Text := logger "utils.logging_config"

/-- Speaks for a run that is a part of another program. -/
def embedded : Text := logger "__main__.main"

/-- Speaks for a run on its own. -/
def standalone : Text := "__main__.main"

def root : Text := "root"

/-- The logger of a name; the empty name means the logger above all others. -/
def named (name : Text) : Text := if name = [] then root else name

end Logger

end PalletTypes.Log
