import PalletTypes.Proofs.FileSystem.Walking

/-!
# Cancelling names that lead through directories

Cancelling a name with the `..` behind it takes no notice of the file system.
Without links it still agrees with it: names that can be followed to a
directory lead there after cancelling as well.  The converse fails, because a
cancelled name need not exist.
-/

namespace PalletTypes

namespace Path

/-- Names without `..` are not cancelled. -/
theorem cancelOnto_of_downward {first : List Text} (downward : upward ∉ first)
    (done second : List Text) :
    cancelOnto done (first ++ second) = cancelOnto (done ++ first) second := by
  induction first generalizing done with
  | nil => simp
  | cons name names ih =>
      rw [List.mem_cons, not_or] at downward
      rw [List.cons_append, cancelOnto, if_neg (Ne.symm downward.1),
        ih downward.2, List.append_assoc, List.singleton_append]

end Path

namespace FileSystem

/-- Following one more name to a directory is finding it in a directory. -/
theorem follow_concat_iff {files : FileSystem} {spot : Spot}
    {names : List Text} {name : Text} {target : Place} :
    files.follow spot (names ++ [name]) = .ok (.directory target) ↔
      ∃ place, files.follow spot names = .ok (.directory place) ∧
        files.find place name = .ok (.directory target) := by
  rw [follow_append]
  cases files.follow spot names with
  | error cause => simp
  | ok next =>
      cases next with
      | file location mode content => simp [follow]
      | directory place =>
          cases found : files.find place name with
          | error cause => simp [follow, found]
          | ok spot => cases spot <;> simp [follow, found]

/-- Names without `..` lead from the top directory to a place. -/
structure LeadsDown (files : FileSystem) (names : List Text)
    (place : Place) : Prop where
  downward : upward ∉ names
  arrival : files.follow (.directory .top) names = .ok (.directory place)

namespace LeadsDown

variable {files : FileSystem} {names : List Text} {place next : Place}

theorem nil (files : FileSystem) : files.LeadsDown [] .top :=
  ⟨List.not_mem_nil, rfl⟩

theorem down (leads : files.LeadsDown names place) {name : Text}
    (downward : name ≠ upward)
    (found : files.find place name = .ok (.directory next)) :
    files.LeadsDown (names ++ [name]) next where
  downward := by simp [leads.downward, Ne.symm downward]
  arrival := follow_concat_iff.mpr ⟨place, leads.arrival, found⟩

theorem eq_or_exists_front (leads : files.LeadsDown names place) :
    names = [] ∧ place = .top ∨
      ∃ front name directory, names = front ++ [name] ∧
        files.LeadsDown front directory ∧ directory.Admits name ∧
        place = ⟨directory.child name, 0⟩ := by
  rcases List.eq_nil_or_concat names with rfl | ⟨front, name, rfl⟩
  · have arrival := leads.arrival
    simp only [follow, Except.ok.injEq, Spot.directory.injEq] at arrival
    exact Or.inl ⟨rfl, arrival.symm⟩
  · obtain ⟨downward, arrival⟩ := leads
    simp only [List.concat_eq_append, List.mem_append, List.mem_singleton,
      not_or] at downward arrival
    obtain ⟨directory, before, found⟩ := follow_concat_iff.mp arrival
    rcases find_eq_directory_iff.mp found with ⟨goesUp, _⟩ |
      ⟨admitted, _, rfl⟩
    · exact absurd goesUp.symm downward.2
    · exact Or.inr ⟨front, name, directory, by simp, ⟨downward.1, before⟩,
        admitted, rfl⟩

theorem present (leads : files.LeadsDown names place) : place.removed = 0 := by
  rcases leads.eq_or_exists_front with ⟨_, rfl⟩ | ⟨_, _, _, _, _, _, rfl⟩ <;>
    rfl

/-- One name less leads one directory up. -/
theorem up (leads : files.LeadsDown names place) :
    files.LeadsDown names.dropLast place.parent := by
  rcases leads.eq_or_exists_front with ⟨rfl, rfl⟩ |
    ⟨front, name, directory, rfl, before, admitted, rfl⟩
  · exact nil files
  · have above : (⟨directory.child name, 0⟩ : Place).parent = directory := by
      obtain ⟨location, removed⟩ := directory
      have standing : removed = 0 := admitted.2.1
      simp [Place.parent, Place.child, standing]
    rw [List.dropLast_concat, above]
    exact before

/-- Where names lead after others, they lead after cancelling too. -/
theorem cancelOnto (leads : files.LeadsDown names place) {later : List Text}
    {target : Place}
    (arrival : files.follow (.directory place) later =
      .ok (.directory target)) :
    files.LeadsDown (Path.cancelOnto names later) target := by
  induction later generalizing names place with
  | nil =>
      simp only [follow, Except.ok.injEq, Spot.directory.injEq] at arrival
      rw [Path.cancelOnto, ← arrival]
      exact leads
  | cons name later ih =>
      rw [follow] at arrival
      cases found : files.find place name with
      | error cause => simp [found] at arrival
      | ok spot =>
          rw [found] at arrival
          cases spot with
          | file location mode content =>
              cases later <;> simp [follow] at arrival
          | directory next =>
              rw [Path.cancelOnto]
              by_cases goesUp : name = upward
              · rw [goesUp, find_upward, Except.ok.injEq,
                  Spot.directory.injEq] at found
                rw [if_pos goesUp]
                exact ih leads.up (found ▸ arrival)
              · rw [if_neg goesUp]
                exact ih (leads.down goesUp found) arrival

end LeadsDown

end FileSystem

/-- The names on the way to the place are such that the system can take
them. -/
def Place.IsNameable (place : Place) : Prop :=
  ∀ name ∈ place.location, ∀ point ∈ name, ¬point.IsUnfit

/-- The place is a directory of the file system, and its location is the way
there. -/
structure Place.Exists (files : FileSystem) (place : Place) : Prop where
  isName : ∀ name ∈ place.location, IsName name
  nameable : place.IsNameable
  leads : files.LeadsDown place.location place

end PalletTypes
