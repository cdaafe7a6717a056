import PalletTypes.Log.Handler
import PalletTypes.Proofs.Log.Csv
import PalletTypes.Proofs.Text.Scalar

/-!
# Reading the log file

Each row of the log file has six fields.  Only the message is written with its
quotes doubled, and the level is written without quotes around it; so the rows
can be read again as long as the other fields hold no quote and the level
holds nothing that ends a field.  The time, the duration and the line number
never do.
-/

namespace PalletTypes.Log

open Csv (quote Spells SpellsRow IsBare)

/-- The fields that the row of an entry holds, if nothing in it has a fault. -/
def Entry.HasFields (entry : Entry) (fields : List Text) : Prop :=
  ∃ time duration message failure,
    entry.time .dated = .ok time ∧
    wholePart entry.elapsed = .ok duration ∧
    entry.message = .ok message ∧
    entry.failure = .ok failure ∧
    fields = [time, entry.level.padded 8, Text.ofInt duration ++ " ms",
      entry.logger, Text.ofInt entry.line, rowMessage message failure]

/-! ## Fields without a quote -/

theorem quote_not_mem_ofNat (number : Nat) : quote ∉ Text.ofNat number :=
  Text.not_mem_ofNat rfl number

theorem quote_not_mem_ofInt (number : Int) : quote ∉ Text.ofInt number := by
  unfold Text.ofInt
  split
  · rw [List.mem_cons, not_or]
    exact ⟨by decide, quote_not_mem_ofNat _⟩
  · exact quote_not_mem_ofNat _

theorem quote_not_mem_zeroPadded (width : Nat) (number : Int) :
    quote ∉ Text.zeroPadded width number := by
  have sign : quote ∉ (if number < 0 then [.scalar '-'] else [] : Text) := by
    split <;> decide
  have zeros : ∀ count, quote ∉ List.replicate count (CodePoint.scalar '0') :=
    fun count member => absurd (List.eq_of_mem_replicate member) (by decide)
  simp only [Text.zeroPadded, List.mem_append, not_or]
  exact ⟨⟨sign, zeros _⟩, quote_not_mem_ofNat _⟩

theorem quote_not_mem_time {entry : Entry} {time : Text}
    (shown : entry.time .dated = .ok time) : quote ∉ time := by
  have dash : quote ∉ Text.ofString "-" := by decide
  have colon : quote ∉ Text.ofString ":" := by decide
  have blank : quote ∉ Text.ofString " " := by decide
  unfold Entry.time TimeStyle.text at shown
  cases whole : wholeSeconds entry.seconds with
  | error fault => simp [whole, bind, Except.bind] at shown
  | ok seconds =>
      simp only [whole, bind, Except.bind, Except.ok.injEq] at shown
      subst shown
      simp [Date.text, clockText, quote_not_mem_ofInt,
        quote_not_mem_zeroPadded, dash, colon, blank]

theorem doubleQuotes_of_no_quote {field : Text} (plain : quote ∉ field) :
    doubleQuotes field = field := by
  induction field with
  | nil => rfl
  | cons point field ih =>
      rw [List.mem_cons, not_or] at plain
      have notQuote : point ≠ .scalar '"' := Ne.symm plain.1
      have tail := ih plain.2
      rw [doubleQuotes] at tail ⊢
      rw [List.flatMap_cons, tail, if_neg notQuote]
      rfl

theorem spells_of_no_quote {field : Text} (plain : quote ∉ field) :
    Spells (quotedField field) field := by
  have spelled := Spells.quoted field
  rwa [doubleQuotes_of_no_quote plain] at spelled

/-- A level keeps its field open, and so do the blanks behind it. -/
theorem isBare_padded {level : Text}
    (plain : ∀ point ∈ level, point ≠ quote ∧ Csv.endsField point = false) :
    IsBare (level.padded 8) := by
  constructor
  · intro empty
    have length := congrArg List.length empty
    simp only [Text.padded, Text.filling, List.length_append,
      List.length_replicate, List.length_nil] at length
    omega
  · intro point member
    rcases List.mem_append.mp member with inLevel | inFilling
    · exact plain point inLevel
    · rw [List.eq_of_mem_replicate inFilling]
      decide

/-! ## Rows -/

theorem fileRow_of_hasFields {entry : Entry} {fields : List Text}
    (shown : entry.HasFields fields) (logger : quote ∉ entry.logger)
    (level : ∀ point ∈ entry.level,
      point ≠ quote ∧ Csv.endsField point = false) :
    ∃ row, fileRow entry = .ok row ∧ SpellsRow row fields := by
  obtain ⟨time, duration, message, failure, timed, lasted, said, failed,
    rfl⟩ := shown
  have lastedPlain : quote ∉ Text.ofInt duration ++ Text.ofString " ms" := by
    rw [List.mem_append, not_or]
    exact ⟨quote_not_mem_ofInt duration, by decide⟩
  have spelled : List.Forall₂ Spells
      [quotedField time, entry.level.padded 8,
        quotedField (Text.ofInt duration ++ " ms"), quotedField entry.logger,
        quotedField (Text.ofInt entry.line),
        quotedField (doubleQuotes (rowMessage message failure))] _ :=
    .cons (spells_of_no_quote (quote_not_mem_time timed)) <|
    .cons (.bare (isBare_padded level)) <|
    .cons (spells_of_no_quote lastedPlain) <|
    .cons (spells_of_no_quote logger) <|
    .cons (spells_of_no_quote (quote_not_mem_ofInt entry.line)) <|
    .cons (.quoted _) .nil
  refine ⟨_, ?_, _, spelled, List.cons_ne_nil _ _, rfl⟩
  simp only [fileRow, row, timed, lasted, said, failed, bind, Except.bind,
    pure, Except.pure]
  rfl

theorem mapM_fileRow_of_hasFields {entries : List Entry}
    {fields : List (List Text)}
    (shown : List.Forall₂ Entry.HasFields entries fields)
    (loggers : ∀ entry ∈ entries, quote ∉ entry.logger)
    (levels : ∀ entry ∈ entries, ∀ point ∈ entry.level,
      point ≠ quote ∧ Csv.endsField point = false) :
    ∃ rows, entries.mapM fileRow = .ok rows ∧
      List.Forall₂ SpellsRow rows fields := by
  induction shown with
  | nil => exact ⟨[], rfl, .nil⟩
  | @cons entry fieldsHere entries fields here later ih =>
      rw [List.forall_mem_cons] at loggers levels
      obtain ⟨row, written, spelled⟩ :=
        fileRow_of_hasFields here loggers.1 levels.1
      obtain ⟨rows, writtenLater, spelledLater⟩ := ih loggers.2 levels.2
      refine ⟨row :: rows, ?_, .cons spelled spelledLater⟩
      simp [List.mapM_cons, written, writtenLater, bind, Except.bind, pure,
        Except.pure]

/-- Two entries with quotes, separators and line ends in their messages and in
the failure. -/
def trickyEntries : List Entry :=
  [{ logger := projectLogger
     level := Level.info.name
     line := 7
     template := "\"%s\";\n"
     arguments := [.text "a;\"\"\r"]
     seconds := .zero
     milliseconds := .zero
     elapsed := .zero
     failure := .ok none },
    { logger := Logger.standalone
      level := Level.critical.name
      line := 0
      template := "\n\""
      arguments := []
      seconds := .zero
      milliseconds := .zero
      elapsed := .zero
      failure := .ok (some "ValueError: \";\"") }]

def trickyFields : List (List Text) :=
  [["1970-01-01 00:00:00", "INFO    ", "0 ms", "subsocial_types", "7",
      "\"a;\"\"\r\";\n"],
    ["1970-01-01 00:00:00", "CRITICAL", "0 ms", "__main__.main", "0",
      "\n\"\nValueError: \";\""]]

end PalletTypes.Log
