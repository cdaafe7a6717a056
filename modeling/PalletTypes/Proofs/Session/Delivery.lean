import PalletTypes.Session.Setup

/-!
# What saying something changes

A record goes to the handlers.  Where all of them write to the console, saying
something leaves the rest of the session as it is: the files, the place and
the handlers themselves.  So a run that only says things and aggregates can be
followed by its files and its records alone.
-/

namespace PalletTypes

/-- The handler writes to the console. -/
def Log.Handler.IsConsole : Log.Handler → Prop
  | .console _ _ => True
  | .file _ => False

namespace Session

/-- Whatever is said in the session goes to the console at most. -/
def SpeaksToConsole (session : Session) : Prop :=
  ∀ handler ∈ session.logging.handlers, handler.IsConsole

/-- From one session to another these records have been made, and besides them
only the console is new. -/
def Tells (before : Session) (records : List Log.Record)
    (after : Session) : Prop :=
  ∃ console, after =
    { before with console := console, made := before.made ++ records }

namespace Tells

variable {before middle after : Session} {first second : List Log.Record}

theorem nil (session : Session) : session.Tells [] session :=
  ⟨session.console, by simp⟩

theorem append (tells : before.Tells first middle)
    (tellsThen : middle.Tells second after) :
    before.Tells (first ++ second) after := by
  obtain ⟨console, rfl⟩ := tells
  obtain ⟨later, rfl⟩ := tellsThen
  exact ⟨later, by simp⟩

theorem speaksToConsole (tells : before.Tells first after)
    (speaks : before.SpeaksToConsole) : after.SpeaksToConsole := by
  obtain ⟨console, rfl⟩ := tells
  exact speaks

theorem made_eq (tells : before.Tells first after) :
    after.made = before.made ++ first := by
  obtain ⟨console, rfl⟩ := tells
  rfl

theorem files_eq (tells : before.Tells first after) :
    after.files = before.files := by
  obtain ⟨console, rfl⟩ := tells
  rfl

theorem place_eq (tells : before.Tells first after) :
    after.place = before.place := by
  obtain ⟨console, rfl⟩ := tells
  rfl

theorem pickName_eq (tells : before.Tells first after) :
    after.pickName = before.pickName := by
  obtain ⟨console, rfl⟩ := tells
  rfl

end Tells

theorem writeLine_tells (session : Session) (line : Except Log.Fault Text) :
    session.Tells [] (session.writeLine line) := by
  cases line with
  | error fault => exact .nil session
  | ok line => exact ⟨_, by simp [writeLine]; rfl⟩

/-- A console handler is the same after it has taken an entry. -/
theorem handle_tells {handler : Log.Handler}
    (isConsole : handler.IsConsole) (entry : Log.Entry) (level : Log.Level)
    (session : Session) :
    session.Tells [] (session.handle entry level handler).1 ∧
      (session.handle entry level handler).2 = handler := by
  cases handler with
  | file log => exact isConsole.elim
  | console threshold colored =>
      unfold handle
      split
      · exact ⟨writeLine_tells session _, rfl⟩
      · exact ⟨.nil session, rfl⟩

theorem handleAll_tells {handlers : List Log.Handler}
    (areConsoles : ∀ handler ∈ handlers, handler.IsConsole)
    (entry : Log.Entry) (level : Log.Level) (session : Session) :
    session.Tells [] (session.handleAll entry level handlers).1 ∧
      (session.handleAll entry level handlers).2 = handlers := by
  induction handlers generalizing session with
  | nil => exact ⟨.nil session, rfl⟩
  | cons handler rest ih =>
      rw [List.forall_mem_cons] at areConsoles
      obtain ⟨tells, same⟩ := handle_tells areConsoles.1 entry level session
      obtain ⟨tellsThen, sameThen⟩ :=
        ih areConsoles.2 (session.handle entry level handler).1
      exact ⟨tells.append tellsThen, List.cons_eq_cons.mpr ⟨same, sameThen⟩⟩

theorem deliver_tells {session : Session} (speaks : session.SpeaksToConsole)
    (record : Log.Record) : session.Tells [] (session.deliver record) := by
  unfold deliver
  split
  case isFalse => exact .nil session
  case isTrue =>
      dsimp only
      split
      · split
        · exact writeLine_tells session _
        · exact .nil session
      · obtain ⟨⟨console, told⟩, same⟩ :=
          handleAll_tells speaks (record.entry session.stamp) record.level
            session
        rw [same, told]
        exact ⟨console, rfl⟩

/-- Saying a record makes it. -/
theorem emit_tells {session : Session} (speaks : session.SpeaksToConsole)
    (record : Log.Record) : session.Tells [record] (session.emit record) := by
  have made : session.Tells [record]
      { session with made := session.made ++ [record] } :=
    ⟨session.console, rfl⟩
  exact made.append (deliver_tells (made.speaksToConsole speaks) record)

/-- Saying records in turn makes them all in this order. -/
theorem emitAll_tells {session : Session} (speaks : session.SpeaksToConsole)
    (records : List Log.Record) :
    session.Tells records (session.emitAll records) := by
  unfold emitAll
  induction records generalizing session with
  | nil => exact .nil session
  | cons record rest ih =>
      have first := emit_tells speaks record
      exact first.append (ih (first.speaksToConsole speaks))

end Session

end PalletTypes
