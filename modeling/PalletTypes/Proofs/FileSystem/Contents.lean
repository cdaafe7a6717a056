import PalletTypes.Proofs.FileSystem.Landing

/-!
# What stands where after a change

Bytes that are appended to a file, a new mode and a move change what stands at
the file's own location and at the one it is moved to, and nowhere else.  A
file is moved to where it can land.
-/

namespace PalletTypes.FileSystem

variable {files : FileSystem}

theorem ne_nil_of_file {location : Location} {mode : Nat}
    {content : ByteArray}
    (standing : files.node? location = some (.file mode content)) :
    location ≠ [] := by
  have noDirectory : files.node? location ≠ some .directory := by
    simp [standing]
  exact ne_nil_of_not_directory noDirectory

theorem node?_append {location : Location} {mode : Nat} {old : ByteArray}
    (standing : files.node? location = some (.file mode old))
    (content : ByteArray) (other : Location) :
    (files.append location content).node? other =
      if location = other then some (.file mode (old ++ content))
      else files.node? other := by
  rw [append, standing]
  exact node?_put (ne_nil_of_file standing) files other _

theorem node?_setMode {location : Location} {mode : Nat} {content : ByteArray}
    (standing : files.node? location = some (.file mode content))
    (newMode : Nat) (other : Location) :
    (files.setMode location newMode).node? other =
      if location = other then some (.file newMode content)
      else files.node? other := by
  rw [setMode, standing]
  exact node?_put (ne_nil_of_file standing) files other _

theorem node?_move {source target : Location} {mode : Nat}
    {content : ByteArray}
    (standing : files.node? source = some (.file mode content))
    (named : target ≠ []) (other : Location) :
    (files.move source target).node? other =
      if target = other then some (.file mode content)
      else if other = source then none
      else files.node? other := by
  rw [move, standing]
  exact (node?_put named _ other _).trans
    (by rw [node?_erase (ne_nil_of_file standing)])

/-- A file that a path leads to is removed. -/
theorem unlink_of_walk {place : Place} {path : Path} {location : Location}
    {mode : Nat} {content : ByteArray} (accepted : path.refusal? = none)
    (walked : files.walk place path = .ok (.file location mode content)) :
    files.unlink place path = .ok (files.erase location) := by
  simp only [unlink, accepted, walked]

theorem ne_nil_of_landing {place : Place} {path : Path} {target : Location}
    (landing : files.landing place path = .ok target) : target ≠ [] :=
  ne_nil_of_not_directory (not_directory_of_landing landing)

theorem rename_eq_ok_iff {source : Location} {place : Place} {path : Path}
    {moved : FileSystem} :
    files.rename source place path = .ok moved ↔
      ∃ target, files.landing place path = .ok target ∧
        files.move source target = moved := by
  unfold rename
  cases files.landing place path <;> simp

theorem rename_eq_error_iff {source : Location} {place : Place} {path : Path}
    {error : AccessError} :
    files.rename source place path = .error error ↔
      files.landing place path = .error error := by
  unfold rename
  cases files.landing place path <;> simp

/-- A file that a path leads to is moved to where it can land. -/
theorem relocate_of_walk {place : Place} {path other : Path}
    {location target : Location} {mode : Nat} {content : ByteArray}
    (accepted : path.refusal? = none)
    (walked : files.walk place path = .ok (.file location mode content))
    (landed : files.landing place other = .ok target) :
    files.relocate place path other = .ok (files.move location target) := by
  simp only [relocate, accepted, walked, rename, landed]

end PalletTypes.FileSystem
