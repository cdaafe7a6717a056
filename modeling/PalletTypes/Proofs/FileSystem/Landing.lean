import PalletTypes.Proofs.FileSystem.Walking

/-!
# Where new files come to stand

A file is created under a free name of a directory, and a file that is moved
lands under the last name of a path.  Both positions are told by the directory
that is entered and the name, so they are the same in file systems with the
same directories, and a landed file is what the path leads to afterwards.
-/

namespace PalletTypes.FileSystem

/-- A name that is not admitted leads up or is refused, and it is only called
missing in a directory that has been removed. -/
theorem find_of_not_admits {place : Place} {name : Text}
    (downward : name ≠ upward) (refused : ¬place.Admits name)
    (files : FileSystem) :
    files.find place name = .error .nameTooLong ∨
      place.removed ≠ 0 ∧ files.find place name = .error .missing := by
  by_cases present : place.removed = 0
  · have long : maxNameBytes < name.byteSize := by
      apply Nat.lt_of_not_le
      exact fun short => refused ⟨downward, present, short⟩
    exact Or.inl (by simp [find, downward, present, long])
  · exact Or.inr ⟨present, by simp [find, downward, present]⟩

theorem vacancy_eq_ok_iff {files : FileSystem} {place : Place} {name : Text}
    {location : Location} :
    files.vacancy place name = .ok location ↔
      place.Admits name ∧ place.child name = location ∧
        files.node? location = none := by
  unfold vacancy
  by_cases admitted : place.Admits name
  · have present := admitted.2.1
    rw [find_of_admits admitted]
    cases node : files.node? (place.child name) with
    | none =>
        simp only [Spot.ofNode?, present, if_true, Except.ok.injEq, admitted,
          true_and]
        constructor
        · rintro rfl
          exact ⟨rfl, node⟩
        · exact And.left
    | some found =>
        have occupied : ∀ other, place.child name = other →
            files.node? other ≠ none := by
          rintro other rfl
          simp [node]
        cases found <;> simpa [Spot.ofNode?, admitted] using occupied location
  · by_cases goesUp : name = upward
    · simp [goesUp, find_upward, Place.Admits]
    · rcases find_of_not_admits goesUp admitted files with long |
        ⟨removed, missing⟩
      · simp [long, admitted]
      · simp [missing, removed, admitted]

theorem create_eq_ok_iff {files created : FileSystem} {place : Place}
    {directory : Path} {name : Text} {location : Location} :
    files.create place directory name = .ok (location, created) ↔
      (directory.join (.ofText name)).refusal? = none ∧
        ∃ entered, files.enter place directory = .ok entered ∧
          entered.Admits name ∧ entered.child name = location ∧
          files.node? location = none ∧
          created =
            files.put location (.file privateMode ByteArray.empty) := by
  unfold create
  cases (directory.join (.ofText name)).refusal? with
  | some error => simp
  | none =>
      cases files.enter place directory with
      | error cause => simp
      | ok entered =>
          simp only [true_and, Except.ok.injEq, exists_eq_left']
          constructor
          · intro success
            cases vacant : files.vacancy entered name with
            | error cause => simp [vacant] at success
            | ok found =>
                obtain ⟨admitted, child, free⟩ := vacancy_eq_ok_iff.mp vacant
                simp only [vacant, Except.ok.injEq, Prod.mk.injEq] at success
                obtain ⟨rfl, rfl⟩ := success
                exact ⟨admitted, child, free, rfl⟩
          · rintro ⟨admitted, child, free, rfl⟩
            rw [vacancy_eq_ok_iff.mpr ⟨admitted, child, free⟩]

theorem create_eq_defective_iff {files : FileSystem} {place : Place}
    {directory : Path} {name : Text} {defect : PathDefect} :
    files.create place directory name = .error (.defective defect) ↔
      (directory.join (.ofText name)).defect? = some defect := by
  rw [← Path.refusal?_eq_defective_iff]
  unfold create
  cases (directory.join (.ofText name)).refusal? with
  | some error => simp
  | none =>
      simp only [reduceCtorEq, iff_false]
      intro refused
      repeat' split at refused
      all_goals simp at refused

/-- A moved file lands under the last name of the path, in the directory that
the parent leads to, unless a directory stands there. -/
theorem landing_eq_ok_iff {files : FileSystem} {place : Place} {path : Path}
    {target : Location} :
    files.landing place path = .ok target ↔
      path.refusal? = none ∧
        ∃ directory name, files.enter place path.parent = .ok directory ∧
          path.names.getLast? = some name ∧ directory.Admits name ∧
          directory.child name = target ∧
          files.node? target ≠ some .directory := by
  unfold landing
  cases path.refusal? with
  | some error => simp
  | none =>
      cases files.enter place path.parent with
      | error cause => simp
      | ok directory =>
          cases path.names.getLast? with
          | none => simp
          | some name =>
              simp only [true_and, Except.ok.injEq, Option.some.injEq,
                exists_and_left, exists_eq_left']
              by_cases goesUp : name = upward
              · simp [goesUp, Place.Admits]
              · by_cases admitted : directory.Admits name
                · have present := admitted.2.1
                  rw [find_of_admits admitted, if_neg goesUp]
                  cases node : files.node? (directory.child name) with
                  | none =>
                      simp only [Spot.ofNode?, present, if_true, admitted,
                        Except.ok.injEq, true_and]
                      constructor
                      · rintro rfl
                        exact ⟨rfl, by simp [node]⟩
                      · exact And.left
                  | some found =>
                      cases found with
                      | directory =>
                          simp only [Spot.ofNode?, reduceCtorEq, false_iff,
                            not_and]
                          rintro _ rfl noDirectory
                          exact noDirectory node
                      | file mode content =>
                          simp only [Spot.ofNode?, admitted, Except.ok.injEq,
                            true_and]
                          constructor
                          · rintro rfl
                            exact ⟨rfl, by simp [node]⟩
                          · exact And.left
                · rcases find_of_not_admits goesUp admitted files with long |
                    ⟨removed, missing⟩
                  · simp [long, goesUp, admitted]
                  · simp [missing, goesUp, removed, admitted]

/-- A path that goes on from a directory under a name leads to a directory if
one stands there. -/
theorem isDirectory_eq_true_iff {files : FileSystem} {place directory : Place}
    {path : Path} {name : Text} (accepted : path.refusal? = none)
    (entered : files.enter place path.parent = .ok directory)
    (last : path.names.getLast? = some name)
    (admitted : directory.Admits name) :
    files.isDirectory place path = .ok true ↔
      files.node? (directory.child name) = some .directory := by
  unfold isDirectory probe
  simp only [accepted, walk_of_last last, entered, find_of_admits admitted]
  cases files.node? (directory.child name) with
  | none => simp [Spot.ofNode?]
  | some node => cases node <;> simp [Spot.ofNode?]

/-- No file lands where a directory stands. -/
theorem landing_of_directory {files : FileSystem} {place directory : Place}
    {path : Path} {name : Text} (accepted : path.refusal? = none)
    (entered : files.enter place path.parent = .ok directory)
    (last : path.names.getLast? = some name)
    (admitted : directory.Admits name)
    (occupied : files.node? (directory.child name) = some .directory) :
    files.landing place path = .error (.refused .isDirectory) := by
  have found : files.find directory name =
      .ok (.directory ⟨directory.child name, 0⟩) := by
    rw [find_of_admits admitted, occupied]
    rfl
  simp [landing, accepted, entered, last, admitted.1, found]

theorem landing_eq_defective_iff {files : FileSystem} {place : Place}
    {path : Path} {defect : PathDefect} :
    files.landing place path = .error (.defective defect) ↔
      path.defect? = some defect := by
  rw [← Path.refusal?_eq_defective_iff]
  unfold landing
  cases path.refusal? with
  | some error => simp
  | none =>
      simp only [reduceCtorEq, iff_false]
      intro refused
      repeat' split at refused
      all_goals simp at refused

/-- Where a file lands is told by the directories. -/
theorem SameDirectories.landing {files other : FileSystem}
    (same : files.SameDirectories other) {place : Place} {path : Path}
    {target : Location} (landed : files.landing place path = .ok target) :
    other.landing place path = .ok target := by
  obtain ⟨accepted, directory, name, entered, last, admitted, child,
    noDirectory⟩ := landing_eq_ok_iff.mp landed
  exact landing_eq_ok_iff.mpr ⟨accepted, directory, name, same.enter entered,
    last, admitted, child, fun node => noDirectory ((same _).mpr node)⟩

theorem not_directory_of_landing {files : FileSystem} {place : Place}
    {path : Path} {target : Location}
    (landed : files.landing place path = .ok target) :
    files.node? target ≠ some .directory := by
  obtain ⟨_, _, _, _, _, _, _, noDirectory⟩ := landing_eq_ok_iff.mp landed
  exact noDirectory

theorem walk_put_of_landing {files : FileSystem} {place : Place} {path : Path}
    {target : Location} (landed : files.landing place path = .ok target)
    (mode : Nat) (content : ByteArray) :
    (files.put target (.file mode content)).walk place path =
      .ok (.file target mode content) := by
  obtain ⟨_, directory, name, entered, last, admitted, child, noDirectory⟩ :=
    landing_eq_ok_iff.mp landed
  have enteredAfter :=
    (sameDirectories_put_file noDirectory mode content).enter entered
  have named := ne_nil_of_not_directory noDirectory
  exact walk_eq_file_iff.mpr ⟨directory, name, enteredAfter, last, admitted,
    child, by rw [node?_put named, if_pos rfl]⟩

theorem read_put_of_landing {files : FileSystem} {place : Place} {path : Path}
    {target : Location} (landed : files.landing place path = .ok target)
    (mode : Nat) (content : ByteArray) :
    (files.put target (.file mode content)).read place path = .ok content := by
  have accepted := (landing_eq_ok_iff.mp landed).1
  exact read_eq_ok_iff.mpr
    ⟨accepted, target, mode, walk_put_of_landing landed mode content⟩

end PalletTypes.FileSystem
