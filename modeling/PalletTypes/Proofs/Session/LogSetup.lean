import PalletTypes.Proofs.FileSystem.Cancelling
import PalletTypes.Proofs.Session.Saying
import PalletTypes.Text.UpperCase

/-!
# What a log delivers once it has been set up

Setting up the log installs the handlers that the settings ask for, whatever
has been installed and said before.  A log file that cannot be opened is left
out.  From then on every event that reaches the threshold of the console has
its line there, in order, and without any handler the console still shows what
is urgent.  Every event has its row in the log file as well, in the same order,
as long as the log file is safe: it can be set aside whenever a row would bring
it to its limit, or none of the rows does.
-/

namespace PalletTypes.Session

/-- The events of records that are made one after another. -/
def events (session : Session) (records : List Log.Record) :
    List Log.Event :=
  records.map fun record => ⟨session.stamp, record⟩

theorem emitAll_eq_sayAll {session : Session} {settings : LoggingSettings}
    {log? : Option Log.LogFile}
    (configured : session.logging = configuration settings log?)
    (records : List Log.Record) :
    session.emitAll records = session.sayAll (session.events records) := by
  unfold emitAll
  induction records generalizing session log? with
  | nil => rfl
  | cons record rest ih =>
      have said := say_eq configured ⟨session.stamp, record⟩
      have stamp := congrArg Session.stamp said
      have later := ih (congrArg Session.logging said)
      rw [events, stamp] at later
      exact later

/-- A log file that has been opened stands where its path leads to. -/
theorem standsIn_of_openFile {files after : FileSystem} {place : Place}
    {location : Location}
    (opened : files.openFile place (logPath place) = .ok (location, after)) :
    ∃ directory name,
      Log.LogFile.StandsIn ⟨logPath place, location, .attached⟩ after
        directory name ∧
      ∃ mode content, after.node? location = some (.file mode content) := by
  obtain ⟨accepted, directory, name, entered, last, admitted, child,
    standing⟩ := FileSystem.stands_of_openFile opened
  have relative : Settings.logFile.root = .relative := by decide
  have rooted : (logPath place).parent.root ≠ .relative := by
    have root : (logPath place).root = .absolute := Path.root_join relative
    simp [Path.parent, root]
  have names : Settings.logFile.names =
      [Text.ofString "logs", Text.ofString "subsocial_types.csv"] := by decide
  have isName : name = Text.ofString "subsocial_types.csv" := by
    rw [logPath, Path.names_join relative, names] at last
    simpa using last.symm
  refine ⟨directory, name, ⟨accepted, ?_, last, admitted, child.symm, ?_, ?_⟩,
    standing⟩
  · rwa [FileSystem.enter, FileSystem.walk, FileSystem.origin,
      if_neg rooted] at entered ⊢
  · rw [isName]
    exact Text.isScalar_ofString _
  · rw [isName]
    decide

theorem isOpen_of_openLog {files after : FileSystem} {place : Place}
    {log : Log.LogFile} (opened : openLog files place = (after, .ok log)) :
    log.IsOpen after := by
  unfold openLog at opened
  split at opened
  case h_1 => cases opened
  case h_2 above made =>
    dsimp only at opened
    split at opened
    case h_1 => cases opened
    case h_2 location filesThen opening =>
      cases opened
      obtain ⟨directory, name, stands, mode, content, standing⟩ :=
        standsIn_of_openFile opening
      refine ⟨rfl, ⟨directory, name, stands⟩, mode, content, ?_⟩
      rw [Log.LogFile.shelf, ← stands.location_eq_numbered]
      exact standing

/-- A log file that cannot be opened is refused by the system, so the failure
is one that setting up the log expects. -/
theorem refused_of_openLog {files : FileSystem} {place : Place}
    {failure : Failure} (nameable : place.IsNameable)
    (failed : (openLog files place).2 = .error failure) :
    ∃ cause path, failure = .refused cause path := by
  have fitsAbove : Settings.logFile.parent.defect? = none := by decide
  have fits : (logPath place).defect? = none := by
    have relative : Settings.logFile.root = .relative := by decide
    rw [logPath, Path.defect?_join_eq_none_iff relative]
    refine ⟨Path.defect?_eq_none_iff.mpr fun name member => ?_, by decide⟩
    exact nameable name (List.mem_filter.mp member).1
  unfold openLog at failed
  split at failed
  case h_1 after cause made =>
    cases failed
    exact FileSystem.refused_of_makeDirectories fitsAbove
      (congrArg Prod.snd made)
  case h_2 above made =>
    dsimp only at failed
    split at failed
    case h_1 error opening =>
      obtain ⟨cause, rfl⟩ := FileSystem.refused_of_openFile fits opening
      cases failed
      exact ⟨cause, _, rfl⟩
    case h_2 => cases failed

section

variable {session : Session} {settings : LoggingSettings}
  {log : Log.LogFile} {files : FileSystem}

theorem setupConsole_configured (session : Session)
    (settings : LoggingSettings) :
    (session.setupConsole settings).logging = configuration settings none := by
  simp [setupConsole, configuration]

/-- The session with the handlers that the settings ask for, before anything
has been said to them, and the path of the log file. -/
def install (session : Session) (settings : LoggingSettings) :
    Session × Option Path :=
  let session := session.setupConsole settings
  if settings.file then session.setupFile else (session, none)

theorem setupLogging_eq (session : Session) (settings : LoggingSettings) :
    session.setupLogging settings =
      (session.install settings).1.emitAll
        (setupRecords settings (session.install settings).2) :=
  rfl

/-- A log file that could be opened is ready. -/
theorem install_opened (file : settings.file = true)
    (opened : openLog session.files session.place = (files, .ok log)) :
    (session.install settings).1.IsReady settings log ∧
      (session.install settings).1.files = files ∧
      (session.install settings).1.stamp = session.stamp ∧
      (session.install settings).2 = some log.path := by
  have openedThen : openLog (session.setupConsole settings).files
      (session.setupConsole settings).place = (files, .ok log) := opened
  have installed : session.install settings =
      ({ session.setupConsole settings with
          files := files
          logging := configuration settings (some log) }, some log.path) := by
    simp only [install, file, if_true, setupFile, openedThen]
    simp [setupConsole, configuration]
  rw [installed]
  exact ⟨⟨rfl, isOpen_of_openLog opened⟩, rfl, rfl, rfl⟩

/-- Otherwise there is none. -/
theorem install_unopened (unopened : settings.file = true →
      ∃ failure, (openLog session.files session.place).2 = .error failure) :
    (session.install settings).1.logging = configuration settings none ∧
      (session.install settings).2 = none := by
  have console := setupConsole_configured session settings
  cases file : settings.file with
  | false => simp [install, file, console]
  | true =>
      obtain ⟨failure, failed⟩ := unopened file
      rcases opened : openLog session.files session.place with ⟨files, result⟩
      rw [opened] at failed
      cases failed
      have openedThen : openLog (session.setupConsole settings).files
          (session.setupConsole settings).place = (files, .error failure) :=
        opened
      have configured :
          { session.setupConsole settings with files := files }.logging =
            configuration settings none := console
      have said := say_eq configured
        ⟨(session.setupConsole settings).stamp, openingFailedRecord failure⟩
      have installed : session.install settings =
          ({ session.setupConsole settings with files := files }.emit
            (openingFailedRecord failure), none) := by
        simp only [install, file, if_true, setupFile, openedThen]
      rw [installed]
      exact ⟨congrArg Session.logging said, rfl⟩

/-- The events that setting up the log says itself. -/
def setupEvents (session : Session) (settings : LoggingSettings)
    (log : Log.LogFile) : List Log.Event :=
  session.events (setupRecords settings (some log.path))

/-- The log file is ready after what setting up says itself, if that is
safe. -/
theorem isReady_setupLogging (file : settings.file = true)
    (opened : openLog session.files session.place = (files, .ok log))
    {later : List Text}
    (safe : log.IsSafe files
      (Log.lines (session.setupEvents settings log) ++ later)) :
    (session.setupLogging settings).IsReady settings log ∧
      log.IsSafe (session.setupLogging settings).files later := by
  obtain ⟨ready, sameFiles, stamp, path⟩ := install_opened file opened
  have said : session.setupLogging settings =
      (session.install settings).1.sayAll
        (session.setupEvents settings log) := by
    rw [setupLogging_eq, path, emitAll_eq_sayAll ready.configured, events,
      stamp]
    rfl
  rw [← sameFiles] at safe
  obtain ⟨readyThen, safeThen, _⟩ := takes_sayAll ready safe
  rw [said]
  exact ⟨readyThen, safeThen⟩

/-- Setting up leaves the handlers that the settings ask for. -/
theorem exists_configuration_setupLogging (session : Session)
    (settings : LoggingSettings) :
    ∃ log?, (session.setupLogging settings).logging =
        configuration settings log? ∧
      log?.map (·.path) =
        if settings.file then
          (openLog session.files session.place).2.toOption.map (·.path)
        else none := by
  rw [setupLogging_eq]
  rcases opened : openLog session.files session.place with ⟨files, result⟩
  by_cases opens : settings.file = true ∧ result.isOk
  · obtain ⟨file, succeeded⟩ := opens
    cases result with
    | error failure => exact nomatch succeeded
    | ok log =>
        have configured := (install_opened file opened).1.configured
        rw [emitAll_eq_sayAll configured]
        obtain ⟨log?, configuredThen, path⟩ :=
          exists_configuration_sayAll configured _
        exact ⟨log?, configuredThen, by rw [path, file]; rfl⟩
  · have failed : settings.file = true → ∃ failure,
        (openLog session.files session.place).2 = .error failure := by
      intro file
      rw [opened]
      cases result with
      | error failure => exact ⟨failure, rfl⟩
      | ok log => exact absurd ⟨file, rfl⟩ opens
    have configured := (install_unopened failed).1
    rw [emitAll_eq_sayAll configured]
    refine ⟨none, (files_sayAll configured _).2, ?_⟩
    split
    case isTrue file =>
      obtain ⟨failure, same⟩ := failed file
      rw [opened] at same
      cases same
      rfl
    case isFalse => rfl

theorem configuration_injective {log? other? : Option Log.LogFile}
    (same : configuration settings log? = configuration settings other?) :
    log? = other? := by
  have handlers := List.append_cancel_left
    (congrArg Log.Configuration.handlers same)
  cases log? <;> cases other? <;> simp_all

end

/-- A session that has logged something already, with two consoles, in a
working directory with a log file. -/
def busySession : Session where
  files := ⟨[(["scripts"], .directory), (["scripts", "logs"], .directory),
    (["scripts", "logs", "subsocial_types.csv"],
      .file FileSystem.publicMode "old\n".toUTF8)]⟩
  place := ⟨["scripts"], 0⟩
  logging := { handlers := [.console .critical true, .console .debug false] }
  console := "old\n"

/-- The log file of the session. -/
def busyLog : Log.LogFile :=
  ⟨.ofText "/scripts/logs/subsocial_types.csv",
    ["scripts", "logs", "subsocial_types.csv"], .attached⟩

theorem openLog_busySession :
    openLog busySession.files busySession.place =
      (busySession.files, .ok busyLog) := by
  rw [openLog, FileSystem.makeDirectories]
  rfl

theorem canRotate_busyLog : busyLog.CanRotate busySession.files := by
  constructor
  · decide
  · intro number bound
    have numbers : number = 0 ∨ number = 1 ∨ number = 2 ∨ number = 3 ∨
        number = 4 ∨ number = 5 := by
      rw [Log.LogFile.backups] at bound
      omega
    rcases numbers with rfl | rfl | rfl | rfl | rfl | rfl <;> exact nofun

/-- An event that stays below the threshold of a console for warnings, and one
with a quote, a line end and a failure. -/
def mixedEvents : List Log.Event :=
  [⟨{}, { level := .debug, logger := Log.Logger.merge, message := "quiet" }⟩,
    ⟨{}, { level := .error, logger := Log.Logger.standalone,
           message := "\"loud\"\n", failure := some "ValueError" }⟩]

/-- Two events that no log file has room for do not make it grow by their rows:
the second one sets the row of the first aside. -/
theorem not_grows_of_oversized {session : Session}
    {settings : LoggingSettings} {log : Log.LogFile} {event : Log.Event}
    (ready : session.IsReady settings log)
    (safe : log.IsSafe session.files (Log.lines [event, event] ++ []))
    (writable : event.IsWritable)
    (oversized : Log.LogFile.maxBytes ≤ event.record.message.length) :
    ¬∃ rows bytes mode old,
      List.Forall₂ (fun event row => Log.fileRow event.entry = .ok row)
        [event, event] rows ∧
      Text.utf8? (rows.flatMap fun row => row ++ Text.ofString "\n") =
        some bytes ∧
      session.files.node? log.location = some (.file mode old) ∧
      (session.sayAll [event, event]).files.node? log.location =
        some (.file mode (old ++ bytes)) := by
  rintro ⟨rows, bytes, mode, old, rowsWritten, encoded, _, grown⟩
  obtain ⟨row, written, line, _⟩ := Log.line?_eq_some writable
  have lines : Log.lines [event, event] =
      [row ++ Text.ofString "\n"] ++ [row ++ Text.ofString "\n"] := by
    simp [Log.lines, line]
  have long : Log.LogFile.maxBytes ≤ (row ++ Text.ofString "\n").length := by
    have message := Log.length_message_le writable written
    rw [List.length_append]
    exact Nat.le_add_right_of_le (Nat.le_trans oversized message)
  obtain ⟨readyThen, _, takes⟩ := takes_sayAll ready safe
  have stores := (takes (by simp [writable])).stores
  rw [lines] at stores
  obtain ⟨stored, encodedLine, top⟩ := stores.of_oversized long
  have sameContent : old ++ bytes = stored := by
    have standing := readyThen.isOpen.node?_location.trans top
    exact (Node.file.inj (Option.some.inj (grown.symm.trans standing))).2
  have sameRows : rows = [row, row] := by
    cases rowsWritten with
    | cons first rest =>
        cases rest with
        | cons second none =>
            cases none
            cases written.symm.trans first
            cases written.symm.trans second
            rfl
  -- The file would have to be longer than the row that it holds.
  have sizes := congrArg ByteArray.size sameContent
  have least := Text.length_le_byteSize (row ++ Text.ofString "\n")
  rw [ByteArray.size_append, Text.size_of_utf8? encoded,
    Text.size_of_utf8? encodedLine, sameRows] at sizes
  simp only [List.flatMap_cons, List.flatMap_nil, List.append_nil,
    Text.byteSize_append] at sizes least
  rw [Log.LogFile.maxBytes] at long
  omega

/-- An event with a message that no log file has room for. -/
def floodEvent : Log.Event :=
  ⟨{}, { level := .info, logger := Log.Logger.standalone,
         message := List.replicate Log.LogFile.maxBytes (.scalar 'x') }⟩

theorem isWritable_floodEvent : floodEvent.IsWritable :=
  ⟨⟨0, by rfl⟩, ⟨0, by rfl⟩, Text.isScalar_ofString _,
    Text.isScalar_replicate _ 'x', nofun⟩

end PalletTypes.Session
