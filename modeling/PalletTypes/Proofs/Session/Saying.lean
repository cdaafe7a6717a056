import PalletTypes.Proofs.Log.Storing
import PalletTypes.Proofs.Log.Written
import PalletTypes.Session.Setup

/-!
# Events once the log has been set up

Saying an event hands it to the handlers that the settings ask for.  The
console shows the events that reach its threshold, whatever becomes of the log
file.  A log file that is open stores the row of every event, if it is safe to
do so.
-/

namespace PalletTypes

/-- Everything reaches the least level. -/
theorem Log.Level.debug_le (level : Level) : Level.debug ≤ level := by
  cases level <;> decide

namespace Session

/-- Say an event at its time. -/
def say (session : Session) (event : Log.Event) : Session :=
  { session with stamp := event.stamp }.emit event.record

def sayAll (session : Session) (events : List Log.Event) : Session :=
  events.foldl say session

/-- The configuration with the handlers that settings ask for, given the log
file that has been opened. -/
def configuration (settings : LoggingSettings) (log? : Option Log.LogFile) :
    Log.Configuration :=
  { rootThreshold := .debug
    projectThreshold := some .debug
    handlers := consoleHandlers settings ++ (log?.map Log.Handler.file).toList }

/-- What the console shows, if it is used: lines from a threshold on. -/
abbrev Screen := Option (Log.Level × (Log.Entry → Except Log.Fault Text))

/-- Settings ask for lines from their threshold on.  Where nothing is
installed, the console shows bare lines of what is urgent. -/
def screen (settings : LoggingSettings) (log? : Option Log.LogFile) :
    Screen :=
  if settings.console then some (settings.level, Log.consoleLine settings.colors)
  else if log?.isSome then none
  else some (.warning, Log.bareLine)

/-- The events with a line on the console, from one session to another. -/
structure Shows (screen : Screen) (before : Session)
    (events : List Log.Event) (after : Session) : Prop where
  /-- The console has one more line for every event that reaches the
  threshold. -/
  lines : ∀ threshold line, screen = some (threshold, line) →
    ∃ shown lines, shown.Sublist events ∧
      shown = events.filter (fun event => threshold ≤ event.record.level) ∧
      List.Forall₂ (fun event text => line event.entry = .ok text)
        shown lines ∧
      after.console = before.console ++
        lines.flatMap fun text => text ++ Text.ofString "\n"
  /-- Where only the log file is written, the console stays as it is. -/
  silent : screen = none → after.console = before.console

/-- The events with a row in the log file, from one session to another. -/
structure Writes (log : Log.LogFile) (before : Session)
    (events : List Log.Event) (after : Session) : Prop where
  /-- Every event has a row. -/
  rows : List.Forall₂ (fun event line => ∃ row,
    Log.fileRow event.entry = .ok row ∧ line = row ++ Text.ofString "\n")
    events (Log.lines events)
  /-- The log file stores the rows in turn, and sets itself aside where a row
  would bring it to its limit; no other file changes. -/
  takes : log.Takes (Log.lines events) before.files after.files
  /-- If no row does, the log file grows by the rows, and no other file changes
  at all. -/
  grows : Log.Shelf.Fits (log.size before.files) (Log.lines events) →
    ∃ mode old bytes, Text.utf8? (Log.lines events).flatten = some bytes ∧
      before.files.node? log.location = some (.file mode old) ∧
      ∀ location, after.files.node? location =
        if log.location = location then some (.file mode (old ++ bytes))
        else before.files.node? location

/-! ## One event -/

/-- What is shown of an event. -/
def shownText (screen : Screen) (event : Log.Event) : Text :=
  match screen with
  | none => []
  | some (threshold, line) =>
      if threshold ≤ event.record.level then
        match line event.entry with
        | .ok text => text ++ Text.ofString "\n"
        | .error _ => []
      else []

/-- Append the row of an event to the log file, if there is one. -/
def appendRow (log? : Option Log.LogFile) (files : FileSystem)
    (event : Log.Event) : FileSystem × Option Log.LogFile :=
  match log? with
  | none => (files, none)
  | some log =>
      let (files, log) := log.append files (Log.fileRow event.entry)
      (files, some log)

section

variable {session : Session} {event : Log.Event} {settings : LoggingSettings}
  {log? : Option Log.LogFile}

/-- Everything passes. -/
theorem passes_configuration (settings : LoggingSettings)
    (log? : Option Log.LogFile) (record : Log.Record) :
    (configuration settings log?).passes record = true := by
  have least := record.level.debug_le
  simp [configuration, Log.Configuration.passes, Log.Configuration.threshold,
    least]

/-- A line that is written from a threshold on. -/
theorem writeLine_eq (session : Session) (event : Log.Event)
    (threshold : Log.Level) (line : Log.Entry → Except Log.Fault Text) :
    (if threshold ≤ event.record.level then
      session.writeLine (line event.entry) else session) =
      { session with
        console :=
          session.console ++ shownText (some (threshold, line)) event } := by
  by_cases reaches : threshold ≤ event.record.level
  · cases written : line event.entry <;>
      simp [shownText, writeLine, reaches, written]
  · simp [shownText, reaches]

theorem handle_console (session : Session) (event : Log.Event)
    (threshold : Log.Level) (colored : Bool) :
    session.handle event.entry event.record.level
        (.console threshold colored) =
      ({ session with
        console := session.console ++
          shownText (some (threshold, Log.consoleLine colored)) event },
        .console threshold colored) := by
  have written := writeLine_eq session event threshold (Log.consoleLine colored)
  rw [← written]
  by_cases reaches : threshold ≤ event.record.level
  · rw [if_pos reaches]
    exact if_pos reaches
  · rw [if_neg reaches]
    exact if_neg reaches

theorem handle_file (session : Session) (event : Log.Event)
    (log : Log.LogFile) :
    session.handle event.entry event.record.level (.file log) =
      ({ session with
          files := (log.append session.files (Log.fileRow event.entry)).1 },
        .file (log.append session.files (Log.fileRow event.entry)).2) := by
  have passes : (Log.Handler.file log).threshold ≤ event.record.level :=
    event.record.level.debug_le
  simp only [handle, if_pos passes]

/-- What saying an event does once the log has been set up. -/
theorem say_eq (configured : session.logging = configuration settings log?)
    (event : Log.Event) :
    session.say event =
      { session with
        stamp := event.stamp
        made := session.made ++ [event.record]
        console :=
          session.console ++ shownText (screen settings log?) event
        files := (appendRow log? session.files event).1
        logging := configuration settings
          (appendRow log? session.files event).2 } := by
  have passes := passes_configuration settings log? event.record
  have entry : event.record.entry event.stamp = event.entry := rfl
  simp only [say, emit, deliver, configured, passes, if_true, entry]
  cases console : settings.console with
  | true =>
      cases log? with
      | none =>
          simp only [configuration, consoleHandlers, screen, console, if_true,
            Option.map_none, Option.toList_none, List.append_nil, handleAll,
            handle_console, appendRow]
      | some log =>
          simp only [configuration, consoleHandlers, screen, console, if_true,
            Option.map_some, Option.toList_some, List.singleton_append,
            handleAll, handle_console, handle_file, appendRow]
  | false =>
      cases log? with
      | none =>
          simp only [configuration, consoleHandlers, screen, console,
            Bool.false_eq_true, if_false, Option.map_none, Option.toList_none,
            List.append_nil, Option.isSome_none, appendRow]
          rw [writeLine_eq _ event .warning Log.bareLine]
      | some log =>
          simp only [configuration, consoleHandlers, screen, console,
            Bool.false_eq_true, if_false, Option.map_some, Option.toList_some,
            List.nil_append, handleAll, handle_file, Option.isSome_some,
            if_true, shownText, List.append_nil, appendRow]

end

/-- A writable event has a line for the console, if the console is used. -/
theorem exists_line {settings : LoggingSettings} {log? : Option Log.LogFile}
    {event : Log.Event} (writable : event.IsWritable) {threshold : Log.Level}
    {line : Log.Entry → Except Log.Fault Text}
    (shows : screen settings log? = some (threshold, line)) :
    ∃ text, line event.entry = .ok text := by
  unfold screen at shows
  split at shows
  · cases shows
    exact Log.exists_consoleLine writable settings.colors
  · split at shows
    · cases shows
    · cases shows
      exact Log.exists_bareLine event

/-! ## Events in turn -/

namespace Shows

variable {screen : Screen} {before middle after : Session}
  {events later : List Log.Event}

theorem nil (screen : Screen) (session : Session) :
    Shows screen session [] session where
  lines := by
    intro threshold line shows
    exact ⟨[], [], .slnil, rfl, .nil, (List.append_nil _).symm⟩
  silent := fun _ => rfl

theorem append (first : Shows screen before events middle)
    (second : Shows screen middle later after) :
    Shows screen before (events ++ later) after where
  lines := by
    intro threshold line shows
    obtain ⟨shown, lines, sublist, rfl, written, grown⟩ :=
      first.lines threshold line shows
    obtain ⟨shownLater, linesLater, sublistLater, rfl, writtenLater,
      grownLater⟩ := second.lines threshold line shows
    refine ⟨_, lines ++ linesLater, sublist.append sublistLater,
      (List.filter_append _ _).symm, List.rel_append written writtenLater, ?_⟩
    rw [grownLater, grown, List.flatMap_append, List.append_assoc]
  silent := fun shows => (second.silent shows).trans (first.silent shows)

/-- What the console shows of one event. -/
theorem of_shownText {settings : LoggingSettings}
    {log? : Option Log.LogFile} {event : Log.Event}
    (writable : event.IsWritable)
    (console : after.console =
      before.console ++ shownText (Session.screen settings log?) event) :
    Shows (Session.screen settings log?) before [event] after where
  lines := by
    intro threshold line shows
    obtain ⟨text, lined⟩ := exists_line writable shows
    by_cases reaches : threshold ≤ event.record.level
    · refine ⟨[event], [text], .refl _, by simp [reaches], .cons lined .nil, ?_⟩
      simp [console, shows, shownText, reaches, lined]
    · refine ⟨[], [], List.nil_sublist _, by simp [reaches], .nil, ?_⟩
      simp [console, shows, shownText, reaches]
  silent := by
    intro shows
    rw [console, shows]
    exact List.append_nil _

end Shows

section

variable {session : Session} {settings : LoggingSettings}
  {log? : Option Log.LogFile} {log : Log.LogFile} {events : List Log.Event}

/-- A log file that takes the row of an event keeps its path. -/
theorem path_appendRow (log? : Option Log.LogFile) (files : FileSystem)
    (event : Log.Event) :
    (appendRow log? files event).2.map (·.path) = log?.map (·.path) := by
  cases log? with
  | none => rfl
  | some log => exact congrArg some (log.path_append files _)

theorem screen_appendRow (settings : LoggingSettings)
    (log? : Option Log.LogFile) (files : FileSystem) (event : Log.Event) :
    screen settings (appendRow log? files event).2 = screen settings log? := by
  have same : (appendRow log? files event).2.isSome = log?.isSome := by
    cases log? <;> rfl
  rw [screen, screen, same]

/-- The handlers stay, whatever is said. -/
theorem exists_configuration_sayAll
    (configured : session.logging = configuration settings log?)
    (events : List Log.Event) :
    ∃ after?, (session.sayAll events).logging = configuration settings after? ∧
      after?.map (·.path) = log?.map (·.path) := by
  induction events generalizing session log? with
  | nil => exact ⟨log?, configured, rfl⟩
  | cons event rest ih =>
      have said := say_eq configured event
      obtain ⟨after?, configuredThen, samePath⟩ :=
        ih (congrArg Session.logging said)
      exact ⟨after?, configuredThen, samePath.trans (path_appendRow log? _ _)⟩

/-- The console shows every event that is said. -/
theorem shows_sayAll
    (configured : session.logging = configuration settings log?)
    (writable : ∀ event ∈ events, event.IsWritable) :
    Shows (screen settings log?) session events (session.sayAll events) := by
  induction events generalizing session log? with
  | nil => exact .nil _ session
  | cons event rest ih =>
      rw [List.forall_mem_cons] at writable
      have said := say_eq configured event
      have first : Shows (screen settings log?) session [event]
          (session.say event) :=
        .of_shownText writable.1 (congrArg Session.console said)
      have later := ih (congrArg Session.logging said) writable.2
      rw [screen_appendRow] at later
      exact first.append later

/-- Without a log file no file changes. -/
theorem files_sayAll
    (configured : session.logging = configuration settings none)
    (events : List Log.Event) :
    (session.sayAll events).files = session.files ∧
      (session.sayAll events).logging = configuration settings none := by
  induction events generalizing session with
  | nil => exact ⟨rfl, configured⟩
  | cons event rest ih =>
      have said := say_eq configured event
      have same : (session.say event).files = session.files := by
        rw [said]
        rfl
      obtain ⟨files, configuredThen⟩ := ih (congrArg Session.logging said)
      exact ⟨files.trans same, configuredThen⟩

/-- The log has been set up with a log file that is open. -/
structure IsReady (session : Session) (settings : LoggingSettings)
    (log : Log.LogFile) : Prop where
  configured : session.logging = configuration settings (some log)
  isOpen : log.IsOpen session.files

/-- An open log file stays open and stores the line of an event, if it is
safe to do so. -/
theorem takes_say (ready : session.IsReady settings log) {event : Log.Event}
    {later : List Text}
    (safe : log.IsSafe session.files (Log.lines [event] ++ later)) :
    (session.say event).IsReady settings log ∧
      log.IsSafe (session.say event).files later ∧
      (event.IsWritable → log.Takes (Log.lines [event]) session.files
        (session.say event).files) := by
  have said := say_eq ready.configured event
  have files := congrArg Session.files said
  have logging := congrArg Session.logging said
  simp only [appendRow] at files logging
  cases written : Log.fileRow event.entry with
  | error fault =>
      have lines : Log.lines [event] = [] := by
        simp [Log.lines, Log.Event.line?, written]
      rw [written, Log.LogFile.append_fault ready.isOpen] at files logging
      rw [lines] at safe ⊢
      rw [files]
      exact ⟨⟨logging, files ▸ ready.isOpen⟩, safe,
        fun _ => .nil log session.files⟩
  | ok row =>
      have lines : Log.lines [event] = [row ++ Text.ofString "\n"] := by
        simp [Log.lines, Log.Event.line?, written]
      rw [lines] at safe ⊢
      obtain ⟨after, appends, isOpen, safeThen, takes⟩ :=
        Log.LogFile.append_takes ready.isOpen safe
      rw [written, appends] at files logging
      rw [files]
      refine ⟨⟨logging, files ▸ isOpen⟩, safeThen, fun writable => ?_⟩
      obtain ⟨_, writtenToo, _, encoded⟩ := Log.line?_eq_some writable
      cases written.symm.trans writtenToo
      exact takes encoded

/-- An open log file stays open and stores the lines of events in turn, if it
is safe to do so. -/
theorem takes_sayAll (ready : session.IsReady settings log)
    {later : List Text}
    (safe : log.IsSafe session.files (Log.lines events ++ later)) :
    (session.sayAll events).IsReady settings log ∧
      log.IsSafe (session.sayAll events).files later ∧
      ((∀ event ∈ events, event.IsWritable) →
        log.Takes (Log.lines events) session.files
          (session.sayAll events).files) := by
  induction events generalizing session with
  | nil => exact ⟨ready, safe, fun _ => .nil log session.files⟩
  | cons event rest ih =>
      have split : Log.lines (event :: rest) =
          Log.lines [event] ++ Log.lines rest :=
        Log.lines_append [event] rest
      rw [split, List.append_assoc] at safe
      obtain ⟨readyThen, safeThen, takes⟩ := takes_say ready safe
      obtain ⟨readyLater, safeLater, takesLater⟩ := ih readyThen safeThen
      refine ⟨readyLater, safeLater, fun writable => ?_⟩
      rw [List.forall_mem_cons] at writable
      rw [split]
      exact (takes writable.1).trans (takesLater writable.2)

end

end Session

end PalletTypes
