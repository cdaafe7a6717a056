import Mathlib.Data.List.Forall2
import PalletTypes.Log.Handler
import PalletTypes.Proofs.Text.Scalar

/-!
# What the log can write

An event is a record that is made at a time of its own.  If the clock and the
calendar reach its time and its texts hold no surrogates, then it has a row in
the log file, which has an encoding, and a line on the console.
-/

namespace PalletTypes.Log

/-- A record and the time at which it is made. -/
structure Event where
  stamp : Stamp
  record : Record

namespace Event

def entry (event : Event) : Entry := event.record.entry event.stamp

/-- The time of the event can be told, and its texts hold no surrogates. -/
structure IsWritable (event : Event) : Prop where
  time : ∃ seconds, wholeSeconds event.stamp.seconds = .ok seconds
  duration : ∃ number, wholePart event.stamp.elapsed = .ok number
  logger : event.record.logger.IsScalar
  message : event.record.message.IsScalar
  failure : ∀ text ∈ event.record.failure, text.IsScalar

end Event

/-- The line of an event in the log file, unless a fault keeps it from having
one. -/
def Event.line? (event : Event) : Option Text :=
  match fileRow event.entry with
  | .ok row => some (row ++ "\n")
  | .error _ => none

/-- The lines of events in the log file. -/
def lines (events : List Event) : List Text := events.filterMap Event.line?

theorem lines_append (events later : List Event) :
    lines (events ++ later) = lines events ++ lines later :=
  List.filterMap_append

theorem isScalar_name (level : Level) : level.name.IsScalar := by
  cases level <;> exact Text.isScalar_ofString _

theorem isScalar_date (date : Date) : date.text.IsScalar := by
  simp [Date.text]

theorem isScalar_clockText (seconds : Int) : (clockText seconds).IsScalar := by
  simp [clockText]

theorem isScalar_doubleQuotes {text : Text} (scalar : text.IsScalar) :
    (doubleQuotes text).IsScalar := by
  intro point member
  obtain ⟨origin, inText, inside⟩ := List.mem_flatMap.mp member
  obtain ⟨char, rfl⟩ := scalar origin inText
  split at inside <;> simp_all

theorem isScalar_rowMessage {message : Text} {failure : Option Text}
    (scalar : message.IsScalar) (failed : ∀ text ∈ failure, text.IsScalar) :
    (rowMessage message failure).IsScalar := by
  cases failure with
  | none => exact scalar
  | some text => simpa [rowMessage, scalar] using failed text rfl

theorem isScalar_quotedField {field : Text} :
    (quotedField field).IsScalar ↔ field.IsScalar := by
  simp [quotedField]

/-- The row of an entry without faults. -/
theorem fileRow_eq {entry : Entry} {time message : Text} {duration : Int}
    {failure : Option Text} (timed : entry.time .dated = .ok time)
    (lasted : wholePart entry.elapsed = .ok duration)
    (said : entry.message = .ok message)
    (failed : entry.failure = .ok failure) :
    fileRow entry = .ok (List.intercalate (Text.ofString ";")
      [quotedField time, entry.level.padded 8,
        quotedField (Text.ofInt duration ++ " ms"), quotedField entry.logger,
        quotedField (Text.ofInt entry.line),
        quotedField (doubleQuotes (rowMessage message failure))]) := by
  simp only [fileRow, row, timed, lasted, said, failed, bind, Except.bind,
    pure, Except.pure]

theorem plainLine_eq {layout : Layout} {style : TimeStyle} {entry : Entry}
    {message time filled : Text} {failure : Option Text}
    (said : entry.message = .ok message)
    (timed : (if layout.needsTime then entry.time style else .ok []) =
      .ok time)
    (fits : layout.template.fill (.ofFields (entry.fields message time)) =
      .ok filled)
    (failed : entry.failure = .ok failure) :
    plainLine layout style entry = .ok (withFailure filled failure) := by
  cases needed : layout.needsTime with
  | true =>
      rw [needed, if_pos rfl] at timed
      simp only [plainLine, said, needed, if_true, timed, fits, failed, bind,
        Except.bind, pure, Except.pure]
  | false =>
      rw [needed] at timed
      cases timed
      simp only [plainLine, said, needed, fits, failed, bind, Except.bind, pure,
        Except.pure, Bool.false_eq_true, if_false]

/-- The layouts of the console and of the bare message fit every entry. -/
theorem exists_fill (entry : Entry) (message time : Text) :
    (∃ line, Layout.console.template.fill
      (.ofFields (entry.fields message time)) = .ok line) ∧
    ∃ line, Layout.bare.template.fill
      (.ofFields (entry.fields message time)) = .ok line :=
  ⟨⟨_, rfl⟩, ⟨_, rfl⟩⟩

variable {event : Event}

/-- The row of a writable event. -/
theorem fileRow_of_isWritable (writable : event.IsWritable) :
    ∃ seconds duration,
      fileRow event.entry = .ok (List.intercalate (Text.ofString ";")
        [quotedField
            ((Date.ofSeconds seconds).text ++ " " ++ clockText seconds),
          event.record.level.name.padded 8,
          quotedField (Text.ofInt duration ++ " ms"),
          quotedField event.record.logger, quotedField (Text.ofInt 0),
          quotedField (doubleQuotes
            (rowMessage event.record.message event.record.failure))]) := by
  obtain ⟨seconds, timed⟩ := writable.time
  obtain ⟨duration, lasted⟩ := writable.duration
  have time : event.entry.time .dated =
      .ok ((Date.ofSeconds seconds).text ++ " " ++ clockText seconds) := by
    simp only [Entry.time, TimeStyle.text, Event.entry, Record.entry, timed]
    rfl
  exact ⟨seconds, duration, fileRow_eq time lasted rfl rfl⟩

/-- A writable event has a row, and the row has an encoding. -/
theorem exists_fileRow (writable : event.IsWritable) :
    ∃ row, fileRow event.entry = .ok row ∧ row.IsScalar := by
  obtain ⟨seconds, duration, written⟩ := fileRow_of_isWritable writable
  have said := isScalar_doubleQuotes
    (isScalar_rowMessage writable.message writable.failure)
  refine ⟨_, written, ?_⟩
  simp [List.intercalate, isScalar_quotedField, isScalar_date,
    isScalar_clockText, isScalar_name, writable.logger, said]

theorem length_le_doubleQuotes (text : Text) :
    text.length ≤ (doubleQuotes text).length := by
  unfold doubleQuotes
  induction text with
  | nil => exact Nat.le_refl 0
  | cons point rest ih =>
      have first : 0 < (if point = .scalar '"' then [point, point]
          else [point]).length := by
        split <;> simp
      rw [List.flatMap_cons, List.length_append, List.length_cons]
      omega

/-- The row of a writable event is at least as long as the message. -/
theorem length_message_le (writable : event.IsWritable) {row : Text}
    (written : fileRow event.entry = .ok row) :
    event.record.message.length ≤ row.length := by
  obtain ⟨seconds, duration, writtenToo⟩ := fileRow_of_isWritable writable
  cases written.symm.trans writtenToo
  have within : event.record.message.length ≤
      (rowMessage event.record.message event.record.failure).length := by
    cases event.record.failure with
    | none => exact Nat.le_refl _
    | some text => simp [rowMessage]
  have doubled := length_le_doubleQuotes
    (rowMessage event.record.message event.record.failure)
  simp only [List.intercalate_cons_cons, List.intercalate_singleton,
    List.length_append, quotedField]
  omega

/-- A writable event has a line in the log file, and the line has an
encoding. -/
theorem line?_eq_some (writable : event.IsWritable) :
    ∃ row, fileRow event.entry = .ok row ∧
      event.line? = some (row ++ "\n") ∧
      (row ++ Text.ofString "\n").utf8?.isSome := by
  obtain ⟨row, written, scalar⟩ := exists_fileRow writable
  obtain ⟨bytes, encoded⟩ := Text.exists_utf8?_of_isScalar
    (Text.isScalar_append.mpr ⟨scalar, Text.isScalar_ofString "\n"⟩)
  exact ⟨row, written, by rw [Event.line?, written], by rw [encoded]; rfl⟩

/-- Writable events have one line each, in order. -/
theorem forall₂_lines {events : List Event}
    (writable : ∀ event ∈ events, event.IsWritable) :
    List.Forall₂ (fun event line => ∃ row,
      fileRow event.entry = .ok row ∧ line = row ++ Text.ofString "\n")
      events (lines events) := by
  induction events with
  | nil => exact .nil
  | cons event rest ih =>
      rw [List.forall_mem_cons] at writable
      obtain ⟨row, written, line, _⟩ := line?_eq_some writable.1
      rw [lines, List.filterMap_cons, line]
      exact .cons ⟨row, written, rfl⟩ (ih writable.2)

/-- A writable event has a console line. -/
theorem exists_consoleLine (writable : event.IsWritable) (colored : Bool) :
    ∃ line, consoleLine colored event.entry = .ok line := by
  obtain ⟨seconds, timed⟩ := writable.time
  have time : event.entry.time .clock = .ok (clockText seconds) := by
    simp only [Entry.time, TimeStyle.text, Event.entry, Record.entry, timed]
    rfl
  obtain ⟨filled, fits⟩ :=
    (exists_fill event.entry event.record.message (clockText seconds)).1
  have plain : plainLine .console .clock event.entry =
      .ok (withFailure filled event.record.failure) :=
    plainLine_eq rfl time fits rfl
  cases colored with
  | true => exact ⟨_, by rw [consoleLine, if_pos rfl, coloredLine, plain]; rfl⟩
  | false => exact ⟨_, plain⟩

/-- Every event has a bare line. -/
theorem exists_bareLine (event : Event) :
    ∃ line, bareLine event.entry = .ok line := by
  obtain ⟨filled, fits⟩ :=
    (exists_fill event.entry event.record.message []).2
  exact ⟨_, plainLine_eq rfl rfl fits rfl⟩

end PalletTypes.Log
