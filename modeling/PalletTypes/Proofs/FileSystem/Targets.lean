import PalletTypes.Proofs.FileSystem.Walking

/-!
# What a path denotes

A path denotes a location whether anything stands there or not: its names are
taken one by one, and each `..` goes to the parent.  A removed directory has no
name any more, so the empty text, which is no name, stands for it.  A walk that
leads somewhere leads to what the path denotes.
-/

namespace PalletTypes

/-- The names on the way to a place, with the removed directories. -/
def Place.chain (place : Place) : Location :=
  place.location ++ List.replicate place.removed []

def Spot.chain : Spot → Location
  | .directory place => place.chain
  | .file location _ _ => location

/-- Where a name leads, seen from a location. -/
def Path.descend (location : Location) (name : Text) : Location :=
  if name = upward then location.dropLast else location ++ [name.shownName]

/-- The location that a path denotes for a process in the given place. -/
def Path.target (path : Path) (place : Place) : Location :=
  path.names.foldl Path.descend (FileSystem.origin place path.root).chain

theorem Place.chain_parent (place : Place) :
    place.parent.chain = place.chain.dropLast := by
  obtain ⟨location, removed⟩ := place
  cases removed with
  | zero => simp [parent, chain]
  | succ removed =>
      rw [chain, chain, List.replicate_succ', ← List.append_assoc,
        List.dropLast_concat]
      rfl

theorem Place.chain_of_present {place : Place} (present : place.removed = 0) :
    place.chain = place.location := by
  rw [chain, present, List.replicate_zero, List.append_nil]

/-- A target is found by way of the names before the last ones. -/
theorem Path.target_append {path front : Path} {names : List Text}
    (place : Place) (sameRoot : path.root = front.root)
    (split : path.names = front.names ++ names) :
    path.target place = names.foldl Path.descend (front.target place) := by
  rw [target, target, sameRoot, split, List.foldl_append]

namespace FileSystem

variable {files : FileSystem}

theorem chain_of_find {place : Place} {name : Text} {spot : Spot}
    (found : files.find place name = .ok spot) :
    spot.chain = Path.descend place.chain name := by
  cases spot with
  | directory target =>
      rcases find_eq_directory_iff.mp found with
        ⟨rfl, rfl⟩ | ⟨⟨notUpward, present, _⟩, _, rfl⟩
      · rw [Path.descend, if_pos rfl]
        exact place.chain_parent
      · rw [Path.descend, if_neg notUpward, Place.chain_of_present present]
        exact List.append_nil _
  | file location mode content =>
      obtain ⟨⟨notUpward, present, _⟩, rfl, _⟩ := find_eq_file_iff.mp found
      rw [Path.descend, if_neg notUpward, Place.chain_of_present present]
      rfl

theorem chain_of_follow {spot next : Spot} {names : List Text}
    (arrival : files.follow spot names = .ok next) :
    next.chain = names.foldl Path.descend spot.chain := by
  induction names generalizing spot with
  | nil =>
      cases spot <;> cases arrival <;> rfl
  | cons name names ih =>
      cases spot with
      | file location mode content => simp [follow] at arrival
      | directory place =>
          cases found : files.find place name with
          | error cause => simp [follow, found] at arrival
          | ok middle =>
              rw [follow, found] at arrival
              rw [ih arrival, chain_of_find found]
              rfl

/-- What is read stands at the location that the path denotes. -/
theorem node?_target_of_read {place : Place} {path : Path}
    {content : ByteArray} (read : files.read place path = .ok content) :
    ∃ mode, files.node? (path.target place) = some (.file mode content) := by
  obtain ⟨_, location, mode, walked⟩ := read_eq_ok_iff.mp read
  obtain ⟨_, _, _, _, _, _, node⟩ := walk_eq_file_iff.mp walked
  have target : location = path.target place := chain_of_follow walked
  exact ⟨mode, target ▸ node⟩

end FileSystem

end PalletTypes
