import PalletTypes.Proofs.Log.Rotation

/-!
# How a log file takes lines

A log file that is open stays open and stores every line, as long as it can be
set aside or no line brings it to its limit.  What becomes of a line otherwise
is not told here, except that the log file keeps its path.
-/

namespace PalletTypes.Log.LogFile

/-- The log file takes lines where it stands. -/
structure IsOpen (log : LogFile) (files : FileSystem) : Prop where
  attached : log.stream = .attached
  placed : ∃ directory name, log.StandsIn files directory name
  standing : ∃ mode content,
    log.shelf files 0 = some (.file mode content)

/-- The log file can be set aside, or it need not be for these lines. -/
def IsSafe (log : LogFile) (files : FileSystem) (lines : List Text) : Prop :=
  log.CanRotate files ∨ Shelf.Fits (log.size files) lines

/-- From one file system to another the log file has stored the lines, and
nothing else has changed. -/
structure Takes (log : LogFile) (lines : List Text)
    (before after : FileSystem) : Prop where
  stores : (log.shelf before).Stores lines (log.shelf after)
  elsewhere : ∀ location,
    (∀ number ≤ backups, log.numberedLocation number ≠ location) →
    after.node? location = before.node? location

section

variable {log : LogFile} {files before middle after : FileSystem}
  {line : Text} {lines later : List Text} {mode : Nat}
  {content bytes : ByteArray}

namespace IsOpen

theorem node?_location (isOpen : log.IsOpen files) :
    files.node? log.location = log.shelf files 0 := by
  obtain ⟨directory, name, stands⟩ := isOpen.placed
  rw [stands.location_eq_numbered]
  rfl

theorem size_eq (isOpen : log.IsOpen files)
    (standing : log.shelf files 0 = some (.file mode content)) :
    log.size files = content.size := by
  rw [size, isOpen.attached, isOpen.node?_location, standing]

theorem isFull_iff (isOpen : log.IsOpen files) :
    log.IsFull files line ↔ maxBytes ≤ log.size files + line.length := by
  obtain ⟨directory, name, stands⟩ := isOpen.placed
  obtain ⟨mode, content, standing⟩ := isOpen.standing
  have walked : files.walk .top log.path =
      .ok (.file (log.numberedLocation 0) mode content) := by
    have walked := stands.walk_numbered (Nat.zero_le backups)
    rwa [standing] at walked
  have noDirectory : files.isDirectory .top log.path = .ok false := by
    simp only [FileSystem.isDirectory, FileSystem.probe, stands.accepted,
      walked]
  simp [IsFull, isOpen.attached, noDirectory, Except.toOption]

/-- A log file stays open when a file is put in its place. -/
theorem put (isOpen : log.IsOpen files) (mode : Nat) (content : ByteArray) :
    log.IsOpen (files.put log.location (.file mode content)) := by
  obtain ⟨directory, name, stands⟩ := isOpen.placed
  obtain ⟨oldMode, old, standing⟩ := isOpen.standing
  have noDirectory : files.node? log.location ≠ some .directory := by
    simp [isOpen.node?_location, standing]
  have same := FileSystem.sameDirectories_put_file noDirectory mode content
  refine ⟨isOpen.attached, ⟨directory, name, stands.transfer same⟩, mode,
    content, ?_⟩
  rw [(put_changes stands _).shelf_eq]
  rfl

/-- An open log file writes bytes behind those that it has. -/
theorem write_eq (isOpen : log.IsOpen files)
    (standing : log.shelf files 0 = some (.file mode content))
    (bytes : ByteArray) :
    log.write files bytes =
      (files.put log.location (.file mode (content ++ bytes)), log) := by
  rw [write, isOpen.attached]
  simp only [FileSystem.append, isOpen.node?_location, standing]

/-- Setting an open log file aside leaves it open. -/
theorem rotate (isOpen : log.IsOpen files) (can : log.CanRotate files) :
    ∃ after, log.rotate files = (after, log) ∧ log.IsOpen after ∧
      log.CanRotate after ∧
      log.Changes files (((log.shelf files).raise backups).put
        (.file FileSystem.publicMode ByteArray.empty)) after := by
  obtain ⟨directory, name, stands⟩ := isOpen.placed
  obtain ⟨after, rotates, changes⟩ :=
    rotate_changes isOpen.attached stands can
  have flat := (can.flat.raise (Nat.le_refl backups)).put
    FileSystem.publicMode ByteArray.empty
  have standsThen := stands.transfer (changes.sameDirectories can.flat flat)
  refine ⟨after, rotates, ⟨isOpen.attached, ⟨_, _, standsThen⟩, ?_⟩,
    can.of_changes changes flat, changes⟩
  rw [changes.shelf_eq]
  exact ⟨_, _, rfl⟩

end IsOpen

theorem Takes.nil (log : LogFile) (files : FileSystem) :
    log.Takes [] files files :=
  ⟨.nil _, fun _ _ => rfl⟩

theorem Takes.trans (first : log.Takes lines before middle)
    (second : log.Takes later middle after) :
    log.Takes (lines ++ later) before after :=
  ⟨first.stores.trans second.stores, fun location other =>
    (second.elsewhere location other).trans (first.elsewhere location other)⟩

/-- An open log file stores a line in place, if it has room. -/
theorem writeLine_room (isOpen : log.IsOpen files)
    (safe : log.IsSafe files (line :: lines))
    (room : log.size files + line.length < maxBytes) :
    ∃ after, log.writeLine files line = (after, log) ∧ log.IsOpen after ∧
      log.IsSafe after lines ∧
      (line.utf8?.isSome → log.Takes [line] files after) := by
  have notFull : ¬log.IsFull files line := by
    rw [isOpen.isFull_iff]
    exact Nat.not_le.mpr room
  obtain ⟨mode, content, standing⟩ := isOpen.standing
  have size := isOpen.size_eq standing
  simp only [writeLine, if_neg notFull]
  cases encoded : line.utf8? with
  | none =>
      refine ⟨files, rfl, isOpen, ?_, fun given => nomatch given⟩
      exact safe.imp_right fun fits => fits.2.mono (Nat.le_add_right _ _)
  | some bytes =>
      obtain ⟨directory, name, stands⟩ := isOpen.placed
      have changes := put_changes stands (.file mode (content ++ bytes))
      have opensThen := isOpen.put mode (content ++ bytes)
      refine ⟨_, isOpen.write_eq standing bytes, opensThen, ?_, fun _ => ?_⟩
      · refine safe.imp (fun can => can.of_changes changes (can.flat.put _ _))
          fun fits => ?_
        have standingThen := congrFun changes.shelf_eq 0
        rw [opensThen.size_eq standingThen, ByteArray.size_append,
          Text.size_of_utf8? encoded, ← size]
        exact fits.2
      · refine ⟨?_, changes.elsewhere⟩
        rw [changes.shelf_eq]
        exact .append standing encoded (size ▸ room) (.nil _)

/-- An open log file stores a line in a new file, if it can be set aside. -/
theorem writeLine_full (isOpen : log.IsOpen files)
    (can : log.CanRotate files)
    (full : maxBytes ≤ log.size files + line.length) :
    ∃ after, log.writeLine files line = (after, log) ∧ log.IsOpen after ∧
      log.CanRotate after ∧
      (line.utf8?.isSome → log.Takes [line] files after) := by
  obtain ⟨mode, content, standing⟩ := isOpen.standing
  have size := isOpen.size_eq standing
  obtain ⟨middle, rotates, opensThen, canThen, changes⟩ := isOpen.rotate can
  have standingThen : log.shelf middle 0 =
      some (.file FileSystem.publicMode ByteArray.empty) := by
    rw [changes.shelf_eq]
    rfl
  simp only [writeLine, if_pos (isOpen.isFull_iff.mpr full), rotates]
  cases encoded : line.utf8? with
  | none => exact ⟨middle, rfl, opensThen, canThen, fun given => nomatch given⟩
  | some bytes =>
      obtain ⟨directory, name, stands⟩ := opensThen.placed
      have writes := opensThen.write_eq standingThen bytes
      rw [ByteArray.empty_append] at writes
      have puts := put_changes stands (.file FileSystem.publicMode bytes)
      refine ⟨_, writes, opensThen.put _ _,
        canThen.of_changes puts (canThen.flat.put _ _), fun _ => ?_⟩
      refine ⟨?_, (changes.trans puts).elsewhere⟩
      rw [puts.shelf_eq, changes.shelf_eq, Shelf.put_put]
      exact .rotate standing encoded (size ▸ full) (.nil _)

/-- An open log file takes a row, if it is safe to do so. -/
theorem append_takes (isOpen : log.IsOpen files) {row : Text}
    (safe : log.IsSafe files ((row ++ Text.ofString "\n") :: lines)) :
    ∃ after, log.append files (.ok row) = (after, log) ∧
      log.IsOpen after ∧ log.IsSafe after lines ∧
      ((row ++ Text.ofString "\n").utf8?.isSome →
        log.Takes [row ++ Text.ofString "\n"] files after) := by
  have notClosed : log.stream ≠ .closed := by simp [isOpen.attached]
  simp only [append, if_neg notClosed]
  by_cases full :
      maxBytes ≤ log.size files + (row ++ Text.ofString "\n").length
  · have can : log.CanRotate files :=
      safe.resolve_right fun fits => Nat.not_lt.mpr full fits.1
    obtain ⟨after, writes, opensThen, canThen, takes⟩ :=
      writeLine_full isOpen can full
    exact ⟨after, writes, opensThen, Or.inl canThen, takes⟩
  · exact writeLine_room isOpen safe (Nat.not_le.mp full)

/-- A row with a fault is lost. -/
theorem append_fault (isOpen : log.IsOpen files) (fault : Fault) :
    log.append files (.error fault) = (files, log) := by
  have notClosed : log.stream ≠ .closed := by simp [isOpen.attached]
  simp only [append, if_neg notClosed]

/-! ## The path -/

theorem path_reopen (log : LogFile) (files : FileSystem) :
    (log.reopen files).2.path = log.path := by
  unfold reopen
  split <;> rfl

theorem path_rotate (log : LogFile) (files : FileSystem) :
    (log.rotate files).2.path = log.path := by
  unfold rotate
  split
  · rfl
  · exact path_reopen log _

theorem path_write (log : LogFile) (files : FileSystem) (bytes : ByteArray) :
    (log.write files bytes).2.path = log.path := by
  unfold write
  split <;> rfl

theorem path_writeLine (log : LogFile) (files : FileSystem) (line : Text) :
    (log.writeLine files line).2.path = log.path := by
  unfold writeLine
  by_cases full : log.IsFull files line
  · simp only [if_pos full]
    split
    · exact path_rotate log files
    · exact (path_write _ _ _).trans (path_rotate log files)
  · simp only [if_neg full]
    split
    · rfl
    · exact path_write log _ _

/-- Whatever becomes of a row, the log file keeps its path. -/
theorem path_append (log : LogFile) (files : FileSystem)
    (row : Except Fault Text) :
    (log.append files row).2.path = log.path := by
  unfold append
  by_cases closed : log.stream = .closed
  · simp only [if_pos closed]
    split
    · exact path_reopen log files
    · exact (path_writeLine _ _ _).trans (path_reopen log files)
  · simp only [if_neg closed]
    split
    · rfl
    · exact path_writeLine log _ _

/-- As long as no line brings an open log file to its limit, it grows by their
bytes, and no other file changes. -/
theorem Takes.grows (takes : log.Takes lines before after)
    (isOpen : log.IsOpen before)
    (fits : Shelf.Fits (log.size before) lines) :
    ∃ mode old bytes, Text.utf8? lines.flatten = some bytes ∧
      before.node? log.location = some (.file mode old) ∧
      ∀ location, after.node? location =
        if log.location = location then some (.file mode (old ++ bytes))
        else before.node? location := by
  obtain ⟨mode, old, standing⟩ := isOpen.standing
  rw [isOpen.size_eq standing] at fits
  obtain ⟨bytes, encoded, same⟩ := takes.stores.grows standing fits
  refine ⟨mode, old, bytes, encoded, ?_, ?_⟩
  · rw [isOpen.node?_location, standing]
  · intro location
    obtain ⟨directory, name, stands⟩ := isOpen.placed
    have atZero := stands.location_eq_numbered
    by_cases numbered :
        ∃ number ≤ backups, log.numberedLocation number = location
    · obtain ⟨number, bound, rfl⟩ := numbered
      have stored := congrFun same number
      cases number with
      | zero => rwa [if_pos atZero]
      | succ number =>
          have behind : log.location ≠ log.numberedLocation (number + 1) := by
            rw [atZero]
            exact fun same => nomatch numberedLocation_injective same
          rwa [if_neg behind]
    · have other : ∀ number ≤ backups,
          log.numberedLocation number ≠ location :=
        fun number bound same => numbered ⟨number, bound, same⟩
      rw [takes.elsewhere location other, atZero,
        if_neg (other 0 (Nat.zero_le _))]

end

end PalletTypes.Log.LogFile
