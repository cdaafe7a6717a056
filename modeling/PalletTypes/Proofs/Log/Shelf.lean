import PalletTypes.Log.File
import PalletTypes.Proofs.Text.Scalar

/-!
# Shelves of log files

A shelf tells what stands under each number of a log file: the log file itself
under 0, and what has been set aside under the numbers from 1 on, the latest
first.  A line is stored at the end of the log file.  Where it would bring the
file to its limit, everything below the last number moves up first, and the
line is stored in a new file.  As long as no line does, the log file only
grows.
-/

namespace PalletTypes.Log

/-- What stands under each number of a log file. -/
abbrev Shelf := Nat → Option Node

namespace Shelf

/-- The shelf with another log file. -/
def put (shelf : Shelf) (node : Node) : Shelf
  | 0 => some node
  | number + 1 => shelf (number + 1)

/-- Everything below a number has moved up by one.  What stood under the number
itself is gone if something has taken its place. -/
def raise (count : Nat) (shelf : Shelf) : Shelf
  | 0 => if count = 0 then shelf 0 else none
  | number + 1 =>
      if number + 1 < count then shelf number
      else if number + 1 = count then (shelf number).or (shelf (number + 1))
      else shelf (number + 1)

/-- What stands under a number has moved up by one.  What stood there before
is gone if something has taken its place. -/
def lift (number : Nat) (shelf : Shelf) : Shelf := fun other =>
  if other = number + 1 then (shelf number).or (shelf (number + 1))
  else if other = number then none
  else shelf other

/-- Nothing stands under a number any more. -/
def clear (number : Nat) (shelf : Shelf) : Shelf := fun other =>
  if other = number then none else shelf other

/-- No directory stands under the numbers of the log file. -/
def IsFlat (shelf : Shelf) : Prop :=
  ∀ number ≤ LogFile.backups, shelf number ≠ some .directory

/-- From one shelf to another, lines have been stored in turn: each at the end
of the log file, or in a new one. -/
inductive Stores : Shelf → List Text → Shelf → Prop where
  | nil (shelf : Shelf) : Stores shelf [] shelf
  | append {shelf after : Shelf} {line : Text} {lines : List Text}
      {mode : Nat} {old bytes : ByteArray} :
      shelf 0 = some (.file mode old) →
      line.utf8? = some bytes →
      old.size + line.length < LogFile.maxBytes →
      Stores (shelf.put (.file mode (old ++ bytes))) lines after →
      Stores shelf (line :: lines) after
  | rotate {shelf after : Shelf} {line : Text} {lines : List Text}
      {mode : Nat} {old bytes : ByteArray} :
      shelf 0 = some (.file mode old) →
      line.utf8? = some bytes →
      LogFile.maxBytes ≤ old.size + line.length →
      Stores ((shelf.raise LogFile.backups).put
        (.file FileSystem.publicMode bytes)) lines after →
      Stores shelf (line :: lines) after

/-- None of the lines brings a file of so many bytes to the limit. -/
def Fits : Nat → List Text → Prop
  | _, [] => True
  | size, line :: lines =>
      size + line.length < LogFile.maxBytes ∧ Fits (size + line.byteSize) lines

variable {shelf middle after : Shelf} {lines later : List Text}

theorem put_self {node : Node} (standing : shelf 0 = some node) :
    shelf.put node = shelf := by
  funext number
  cases number with
  | zero => exact standing.symm
  | succ number => rfl

theorem put_put (shelf : Shelf) (first second : Node) :
    (shelf.put first).put second = shelf.put second := by
  funext number
  cases number <;> rfl

theorem raise_zero (shelf : Shelf) : shelf.raise 0 = shelf := by
  funext number
  cases number with
  | zero => rfl
  | succ number => simp [raise]

/-- Everything moves up if the last one moves first. -/
theorem raise_lift (count : Nat) (shelf : Shelf) :
    (shelf.lift count).raise count = shelf.raise (count + 1) := by
  funext number
  cases number with
  | zero => cases count <;> simp [raise, lift]
  | succ number =>
      simp only [raise]
      rcases Nat.lt_trichotomy (number + 1) count with below | last | above
      · have first : number ≠ count + 1 := by omega
        have second : number ≠ count := by omega
        have raised : number + 1 < count + 1 := by omega
        simp only [below, raised, if_true, lift, first, second, if_false]
      · subst last
        have lower : number ≠ number + 1 + 1 := by omega
        simp [lift, lower]
      · have notBelow : ¬number + 1 < count := by omega
        have notLast : number + 1 ≠ count := by omega
        have notRaised : ¬number + 1 < count + 1 := by omega
        simp only [notBelow, notLast, notRaised, if_false, lift]
        by_cases next : number = count
        · simp [next]
        · simp [next]

theorem lift_of_none {number : Nat} (nothing : shelf number = none) :
    shelf.lift number = shelf := by
  funext other
  unfold lift
  split
  case isTrue same => rw [same, nothing, Option.none_or]
  case isFalse =>
    split
    case isTrue same => rw [same, nothing]
    case isFalse => rfl

theorem lift_clear {number : Nat} {node : Node}
    (standing : shelf number = some node) :
    (shelf.clear (number + 1)).lift number = shelf.lift number := by
  funext other
  by_cases next : other = number + 1
  · simp [lift, clear, standing, next]
  · simp [lift, clear, next]

theorem IsFlat.clear (flat : shelf.IsFlat) (number : Nat) :
    (shelf.clear number).IsFlat := by
  intro other bound
  unfold Shelf.clear
  split
  · exact nofun
  · exact flat other bound

theorem IsFlat.lift (flat : shelf.IsFlat) {number : Nat}
    (bound : number < LogFile.backups) : (shelf.lift number).IsFlat := by
  intro other otherBound
  unfold Shelf.lift
  split
  case isTrue =>
    have lower := flat number (Nat.le_of_lt bound)
    have upper := flat (number + 1) bound
    cases standing : shelf number with
    | none => simpa using upper
    | some node => simpa [standing] using lower
  case isFalse =>
    split
    · exact nofun
    · exact flat other otherBound

theorem IsFlat.raise (flat : shelf.IsFlat) {count : Nat}
    (bound : count ≤ LogFile.backups) : (shelf.raise count).IsFlat := by
  induction count generalizing shelf with
  | zero =>
      rw [raise_zero]
      exact flat
  | succ count ih =>
      rw [← raise_lift]
      exact ih (flat.lift bound) (Nat.le_of_lt bound)

theorem IsFlat.put (flat : shelf.IsFlat) (mode : Nat) (content : ByteArray) :
    (shelf.put (.file mode content)).IsFlat := by
  intro number bound
  cases number with
  | zero => exact nofun
  | succ number => exact flat (number + 1) bound

theorem Stores.trans (stores : Stores shelf lines middle)
    (storesThen : Stores middle later after) :
    Stores shelf (lines ++ later) after := by
  induction stores with
  | nil => exact storesThen
  | append standing encoded room rest ih =>
      exact .append standing encoded room (ih storesThen)
  | rotate standing encoded full rest ih =>
      exact .rotate standing encoded full (ih storesThen)

/-- A last line that no file has room for is stored in a new one. -/
theorem Stores.of_oversized {line : Text}
    (stores : Stores shelf (lines ++ [line]) after)
    (oversized : LogFile.maxBytes ≤ line.length) :
    ∃ bytes, line.utf8? = some bytes ∧
      after 0 = some (.file FileSystem.publicMode bytes) := by
  induction lines generalizing shelf with
  | nil =>
      cases stores with
      | append standing encoded room rest => omega
      | rotate standing encoded full rest =>
          cases rest
          exact ⟨_, encoded, rfl⟩
  | cons first lines ih =>
      cases stores with
      | append standing encoded room rest => exact ih rest
      | rotate standing encoded full rest => exact ih rest

theorem Fits.mono {size smaller : Nat} (fits : Fits size lines)
    (le : smaller ≤ size) : Fits smaller lines := by
  induction lines generalizing size smaller with
  | nil => trivial
  | cons line lines ih =>
      obtain ⟨room, rest⟩ := fits
      exact ⟨by omega, ih rest (Nat.add_le_add_right le _)⟩

/-- As long as no line brings the log file to its limit, its bytes are followed
by those of the lines and nothing else on the shelf changes. -/
theorem Stores.grows {mode : Nat} {old : ByteArray}
    (stores : Stores shelf lines after)
    (standing : shelf 0 = some (.file mode old))
    (fits : Fits old.size lines) :
    ∃ bytes, Text.utf8? lines.flatten = some bytes ∧
      after = shelf.put (.file mode (old ++ bytes)) := by
  induction stores generalizing old with
  | nil shelf =>
      refine ⟨ByteArray.empty, rfl, ?_⟩
      rw [ByteArray.append_empty]
      exact (put_self standing).symm
  | append there encoded room rest ih =>
      cases there.symm.trans standing
      obtain ⟨bytes, encodedThen, same⟩ := ih rfl (by
        rw [ByteArray.size_append, Text.size_of_utf8? encoded]
        exact fits.2)
      refine ⟨_, Text.utf8?_append encoded encodedThen, ?_⟩
      rw [same, put_put, ByteArray.append_assoc]
  | rotate there encoded full rest ih =>
      cases there.symm.trans standing
      exact absurd fits.1 (Nat.not_lt.mpr full)

end Shelf

end PalletTypes.Log
