import PalletTypes.Proofs.FileSystem.Walking

/-!
# Files that are filled anew

A file system goes on from another one if it still has all of its directories
and files, though files may have been filled with given bytes and anything may
have been added.  What could be read before can be read then, as it was or as
these bytes.
-/

namespace PalletTypes.FileSystem

/-- Everything is still there, except that files may have been filled with the
bytes. -/
structure Refilled (bytes : ByteArray) (files later : FileSystem) : Prop where
  directories : files.KeepsDirectories later
  contents : ∀ {location : Location} {mode : Nat} {content : ByteArray},
    files.node? location = some (.file mode content) →
      ∃ newMode newContent,
        later.node? location = some (.file newMode newContent) ∧
        (newContent = content ∨ newContent = bytes)

namespace Refilled

variable {bytes : ByteArray} {files middle later : FileSystem}

theorem refl (bytes : ByteArray) (files : FileSystem) :
    Refilled bytes files files where
  directories := fun _ directory => directory
  contents := fun node => ⟨_, _, node, Or.inl rfl⟩

theorem trans (first : Refilled bytes files middle)
    (second : Refilled bytes middle later) : Refilled bytes files later where
  directories := fun location directory =>
    second.directories location (first.directories location directory)
  contents := by
    intro location mode content node
    obtain ⟨middleMode, middleContent, between, origin⟩ := first.contents node
    obtain ⟨newMode, newContent, after, source⟩ := second.contents between
    refine ⟨newMode, newContent, after, ?_⟩
    rcases source with rfl | filled
    · exact origin
    · exact Or.inr filled

/-- A file may be put wherever there is no directory. -/
theorem put_file {target : Location}
    (noDirectory : files.node? target ≠ some .directory) (mode : Nat) :
    Refilled bytes files (files.put target (.file mode bytes)) where
  directories := (sameDirectories_put_file noDirectory mode bytes).keeps
  contents := by
    intro location oldMode content node
    rw [node?_put (ne_nil_of_not_directory noDirectory)]
    by_cases same : target = location
    · exact ⟨mode, bytes, if_pos same, Or.inr rfl⟩
    · exact ⟨oldMode, content, by rw [if_neg same, node], Or.inl rfl⟩

/-- Anything may be put under a free name. -/
theorem put_free {target : Location} (free : files.node? target = none)
    (node : Node) : Refilled bytes files (files.put target node) := by
  have kept : ∀ {location found}, files.node? location = some found →
      (files.put target node).node? location = some found := by
    intro location found standing
    have elsewhere : target ≠ location := by
      rintro rfl
      exact nomatch free.symm.trans standing
    rw [node?_put (ne_nil_of_free free), if_neg elsewhere, standing]
  constructor
  · intro location directory
    exact kept directory
  · intro location mode content standing
    exact ⟨mode, content, kept standing, Or.inl rfl⟩

/-- What could be read is read as it was, or as the bytes. -/
theorem read (refilled : Refilled bytes files later) {place : Place}
    {path : Path} {content : ByteArray}
    (before : files.read place path = .ok content) :
    later.read place path = .ok content ∨
      later.read place path = .ok bytes := by
  obtain ⟨accepted, location, mode, walked⟩ := read_eq_ok_iff.mp before
  obtain ⟨directory, name, entered, last, admitted, child, node⟩ :=
    walk_eq_file_iff.mp walked
  obtain ⟨newMode, newContent, after, source⟩ := refilled.contents node
  have readAfter : later.read place path = .ok newContent := by
    apply read_eq_ok_iff.mpr
    refine ⟨accepted, location, newMode, walk_eq_file_iff.mpr ?_⟩
    exact ⟨directory, name, refilled.directories.enter entered, last, admitted,
      child, after⟩
  rcases source with rfl | rfl
  · exact Or.inl readAfter
  · exact Or.inr readAfter

end Refilled

end PalletTypes.FileSystem
