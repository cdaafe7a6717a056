import PalletTypes.Proofs.FileSystem.Contents
import PalletTypes.Proofs.FileSystem.Opening
import PalletTypes.Proofs.Log.Shelf
import PalletTypes.Proofs.Path.Names

/-!
# How a log file is set aside

A log file and the files set aside before it stand in one directory, under
names that differ in their numbers only.  Moving one of them changes what
stands under two numbers and nothing else.  Moving them in turn, the last one
first, raises the shelf of the log file, and then a new file begins it.
-/

namespace PalletTypes.Log.LogFile

/-! ## Numbered names -/

section

variable {name : Text} {number other : Nat}

theorem isName_numberedName (isName : IsName name) (number : Nat) :
    IsName (numberedName name number) := by
  cases number with
  | zero => exact isName
  | succ number =>
      obtain ⟨nonempty, _, noSlash⟩ := isName
      have long : 1 < (numberedName name (number + 1)).length := by
        have positive := List.length_pos_iff.mpr nonempty
        have dot : (Text.ofString ".").length = 1 := rfl
        simp only [numberedName, List.length_append, dot]
        omega
      refine ⟨?_, ?_, ?_⟩
      · rintro empty
        simp [empty] at long
      · rintro dot
        simp [dot] at long
      · have dot : slash ∉ Text.ofString "." := by decide
        simp only [numberedName, List.mem_append, not_or]
        exact ⟨⟨noSlash, dot⟩, Text.not_mem_ofNat rfl _⟩

theorem numberedName_injective
    (same : numberedName name number = numberedName name other) :
    number = other := by
  have longer (number : Nat) :
      name.length < (numberedName name (number + 1)).length := by
    have dot : (Text.ofString ".").length = 1 := rfl
    simp only [numberedName, List.length_append, dot]
    omega
  cases number with
  | zero =>
      cases other with
      | zero => rfl
      | succ other =>
          have lengths := congrArg List.length same
          exact absurd lengths (Nat.ne_of_lt (longer other))
  | succ number =>
      cases other with
      | zero =>
          have lengths := congrArg List.length same
          exact absurd lengths (Nat.ne_of_gt (longer number))
      | succ other =>
          exact Text.ofNat_injective (List.append_cancel_left same)

theorem isScalar_numberedName (scalar : name.IsScalar) (number : Nat) :
    (numberedName name number).IsScalar := by
  cases number with
  | zero => exact scalar
  | succ number => simp [numberedName, scalar]

/-- The number of a log file takes a dot and a digit. -/
theorem byteSize_numberedName_le (bound : number ≤ backups) :
    (numberedName name number).byteSize ≤ name.byteSize + 2 := by
  cases number with
  | zero => exact Nat.le_add_right _ 2
  | succ number =>
      have digits : ∀ number < backups,
          (Text.ofNat (number + 1)).byteSize = 1 := by
        decide
      have dot : Text.byteSize (Text.ofString ".") = 1 := by decide
      have size : (numberedName name (number + 1)).byteSize =
          name.byteSize + 2 := by
        rw [numberedName, Text.byteSize_append, Text.byteSize_append, dot,
          digits number bound]
      exact Nat.le_of_eq size

theorem admits_numberedName {directory : Place}
    (admitted : directory.Admits name)
    (short : name.byteSize + 2 ≤ maxNameBytes) (bound : number ≤ backups) :
    directory.Admits (numberedName name number) := by
  refine ⟨?_, admitted.2.1,
    Nat.le_trans (byteSize_numberedName_le bound) short⟩
  cases number with
  | zero => exact admitted.1
  | succ number =>
      intro goesUp
      -- A digit would have to be one of the dots.
      obtain ⟨digit, inNumber⟩ :=
        List.exists_mem_of_ne_nil _ (Text.ofNat_ne_nil (number + 1))
      have inUpward : digit ∈ upward := by
        rw [← goesUp]
        exact List.mem_append_right _ inNumber
      have isDot : digit = .scalar '.' := by
        simpa [upward] using inUpward
      exact Text.not_mem_ofNat rfl _ (isDot ▸ inNumber)

end

/-! ## Numbered paths -/

section

variable {path : Path} {name : Text}

/-- The file with a number stands beside the log file. -/
theorem numbered_eq (last : path.names.getLast? = some name) (number : Nat) :
    (numbered path number).parent = path.parent ∧
      (numbered path number).names.getLast? =
        some (numberedName name number) := by
  cases number with
  | zero => exact ⟨rfl, last⟩
  | succ number =>
      have isName : IsName name := path.valid name (List.mem_of_getLast? last)
      have lastName : path.names.getLastD [] = name := by
        rw [List.getLastD_eq_getLast?, last]
        rfl
      have areNames : ∀ other ∈ path.names.dropLast ++
          [numberedName name (number + 1)], decide (IsName other) = true := by
        intro other member
        rw [decide_eq_true_eq]
        rcases List.mem_append.mp member with before | same
        · exact path.valid other (List.dropLast_subset _ before)
        · rw [List.mem_singleton.mp same]
          exact isName_numberedName isName (number + 1)
      have names : (numbered path (number + 1)).names =
          path.names.dropLast ++ [numberedName name (number + 1)] := by
        rw [numbered, lastName]
        exact List.filter_eq_self.mpr areNames
      constructor
      · simp only [Path.parent, names, List.dropLast_concat]
        rfl
      · rw [names, List.getLast?_concat]

end

/-! ## What stands under the numbers -/

/-- The location of the file with a number. -/
def numberedLocation (log : LogFile) (number : Nat) : Location :=
  log.location.dropLast ++ [numberedName (log.location.getLastD []) number]

/-- What stands under the numbers of the log file. -/
def shelf (log : LogFile) (files : FileSystem) : Shelf :=
  fun number => files.node? (log.numberedLocation number)

/-- The path of the log file leads to its location in a directory, and its name
leaves room for a number. -/
structure StandsIn (log : LogFile) (files : FileSystem) (directory : Place)
    (name : Text) : Prop where
  accepted : log.path.refusal? = none
  entered : files.enter .top log.path.parent = .ok directory
  last : log.path.names.getLast? = some name
  admitted : directory.Admits name
  location_eq : log.location = directory.child name
  scalar : name.IsScalar
  short : name.byteSize + 2 ≤ maxNameBytes

/-- The log file can be set aside, now and later: the system takes the paths of
all numbers, and no directory stands there. -/
structure CanRotate (log : LogFile) (files : FileSystem) : Prop where
  accepted : ∀ number ≤ backups, (numbered log.path number).refusal? = none
  flat : (log.shelf files).IsFlat

/-- From one file system to another only the shelf of the log file has
changed, to this one. -/
structure Changes (log : LogFile) (before : FileSystem) (shelf : Shelf)
    (after : FileSystem) : Prop where
  shelf_eq : log.shelf after = shelf
  elsewhere : ∀ location,
    (∀ number ≤ backups, log.numberedLocation number ≠ location) →
    after.node? location = before.node? location

section

variable {log : LogFile} {files before middle after : FileSystem}
  {directory : Place} {name : Text} {number other : Nat} {mode : Nat}
  {content : ByteArray}

theorem numberedLocation_injective
    (same : log.numberedLocation number = log.numberedLocation other) :
    number = other := by
  have names := List.append_cancel_left same
  rw [List.cons.injEq] at names
  exact numberedName_injective names.1

theorem numberedLocation_ne_nil : log.numberedLocation number ≠ [] := by
  simp [numberedLocation]

namespace Changes

variable {shelf later : Shelf}

theorem refl (log : LogFile) (files : FileSystem) :
    log.Changes files (log.shelf files) files :=
  ⟨rfl, fun _ _ => rfl⟩

theorem trans (first : log.Changes before shelf middle)
    (second : log.Changes middle later after) :
    log.Changes before later after :=
  ⟨second.shelf_eq, fun location other =>
    (second.elsewhere location other).trans (first.elsewhere location other)⟩

/-- Where no directory stands under the numbers, none comes or goes. -/
theorem sameDirectories (changes : log.Changes before shelf after)
    (flat : (log.shelf before).IsFlat) (flatAfter : shelf.IsFlat) :
    before.SameDirectories after := by
  intro location
  by_cases numbered :
      ∃ number ≤ backups, log.numberedLocation number = location
  · obtain ⟨number, bound, rfl⟩ := numbered
    have noneBefore := flat number bound
    have noneAfter := flatAfter number bound
    rw [← changes.shelf_eq] at noneAfter
    exact ⟨fun there => absurd there noneBefore,
      fun there => absurd there noneAfter⟩
  · have other : ∀ number ≤ backups, log.numberedLocation number ≠ location :=
      fun number bound same => numbered ⟨number, bound, same⟩
    rw [changes.elsewhere location other]

end Changes

theorem StandsIn.transfer (stands : log.StandsIn before directory name)
    (same : before.SameDirectories after) :
    log.StandsIn after directory name :=
  { stands with entered := same.enter stands.entered }

theorem CanRotate.of_changes {shelf : Shelf}
    (can : log.CanRotate before) (changes : log.Changes before shelf after)
    (flat : shelf.IsFlat) : log.CanRotate after where
  accepted := can.accepted
  flat := by
    rw [changes.shelf_eq]
    exact flat

namespace StandsIn

theorem child_eq (stands : log.StandsIn files directory name)
    (number : Nat) :
    directory.child (numberedName name number) =
      log.numberedLocation number := by
  have shown := Text.shownName_of_isScalar stands.scalar
  have shownNumbered := Text.shownName_of_isScalar
    (isScalar_numberedName stands.scalar number)
  simp [numberedLocation, stands.location_eq, Place.child, shown, shownNumbered]

theorem location_eq_numbered (stands : log.StandsIn files directory name) :
    log.location = log.numberedLocation 0 :=
  stands.location_eq.trans (stands.child_eq 0)

/-- What the path with a number leads to. -/
theorem walk_numbered (stands : log.StandsIn files directory name)
    (bound : number ≤ backups) :
    files.walk .top (numbered log.path number) =
      Spot.ofNode? (log.numberedLocation number)
        (log.shelf files number) := by
  obtain ⟨parent, last⟩ := numbered_eq stands.last number
  have admitted := admits_numberedName stands.admitted stands.short bound
  rw [FileSystem.walk_of_last last, parent, stands.entered]
  dsimp only
  rw [FileSystem.find_of_admits admitted, stands.child_eq]
  rfl

theorem landing_numbered (stands : log.StandsIn files directory name)
    (bound : number ≤ backups)
    (accepted : (numbered log.path number).refusal? = none)
    (noDirectory : log.shelf files number ≠ some .directory) :
    files.landing .top (numbered log.path number) =
      .ok (log.numberedLocation number) := by
  obtain ⟨parent, last⟩ := numbered_eq stands.last number
  have admitted := admits_numberedName stands.admitted stands.short bound
  refine FileSystem.landing_eq_ok_iff.mpr ⟨accepted, directory, _, ?_, last,
    admitted, stands.child_eq number, noDirectory⟩
  rw [parent]
  exact stands.entered

theorem stands_numbered (stands : log.StandsIn files directory name)
    (bound : number ≤ backups)
    (accepted : (numbered log.path number).refusal? = none) :
    LogFile.stands files (numbered log.path number) =
      (log.shelf files number).isSome := by
  unfold LogFile.stands FileSystem.probe
  rw [accepted, stands.walk_numbered bound]
  cases log.shelf files number with
  | none => rfl
  | some node => cases node <;> rfl

end StandsIn

/-! ## One file moves up -/

/-- The file with a number is removed. -/
theorem unlink_numbered (stands : log.StandsIn files directory name)
    (can : log.CanRotate files) (bound : number ≤ backups)
    (standing : log.shelf files number = some (.file mode content)) :
    ∃ after, files.unlink .top (numbered log.path number) = .ok after ∧
      log.Changes files ((log.shelf files).clear number) after := by
  have walked : files.walk .top (numbered log.path number) =
      .ok (.file (log.numberedLocation number) mode content) := by
    rw [stands.walk_numbered bound, standing]
    rfl
  refine ⟨_, FileSystem.unlink_of_walk (can.accepted number bound) walked,
    ?_, ?_⟩
  · funext other
    rw [shelf, FileSystem.node?_erase numberedLocation_ne_nil]
    unfold Shelf.clear
    by_cases same : other = number
    · rw [if_pos (congrArg log.numberedLocation same), if_pos same]
    · rw [if_neg (fun equal => same (numberedLocation_injective equal)),
        if_neg same]
      rfl
  · intro location elsewhere
    rw [FileSystem.node?_erase numberedLocation_ne_nil,
      if_neg (Ne.symm (elsewhere number bound))]

/-- The file with a number takes the next number. -/
theorem relocate_numbered (stands : log.StandsIn files directory name)
    (can : log.CanRotate files) (bound : number < backups)
    (standing : log.shelf files number = some (.file mode content)) :
    ∃ after, files.relocate .top (numbered log.path number)
        (numbered log.path (number + 1)) = .ok after ∧
      log.Changes files ((log.shelf files).lift number) after := by
  have walked : files.walk .top (numbered log.path number) =
      .ok (.file (log.numberedLocation number) mode content) := by
    rw [stands.walk_numbered (Nat.le_of_lt bound), standing]
    rfl
  have landed := stands.landing_numbered bound (can.accepted _ bound)
    (can.flat _ bound)
  refine ⟨_, FileSystem.relocate_of_walk
    (can.accepted number (Nat.le_of_lt bound)) walked landed, ?_, ?_⟩
  · funext other
    rw [shelf, FileSystem.node?_move standing numberedLocation_ne_nil]
    unfold Shelf.lift
    by_cases next : other = number + 1
    · rw [if_pos (congrArg log.numberedLocation next.symm), if_pos next,
        standing, Option.some_or]
    · rw [if_neg (fun equal => next (numberedLocation_injective equal).symm),
        if_neg next]
      by_cases same : other = number
      · rw [if_pos (congrArg log.numberedLocation same), if_pos same]
      · rw [if_neg (fun equal => same (numberedLocation_injective equal)),
          if_neg same]
        rfl
  · intro location elsewhere
    rw [FileSystem.node?_move standing numberedLocation_ne_nil,
      if_neg (elsewhere (number + 1) bound),
      if_neg (Ne.symm (elsewhere number (Nat.le_of_lt bound)))]

theorem moveUp_changes (stands : log.StandsIn files directory name)
    (can : log.CanRotate files) (bound : number < backups) :
    ∃ after, moveUp log.path files number = .ok after ∧
      log.Changes files ((log.shelf files).lift number) after := by
  have source := stands.stands_numbered (Nat.le_of_lt bound)
    (can.accepted number (Nat.le_of_lt bound))
  have target := stands.stands_numbered bound (can.accepted _ bound)
  cases standing : log.shelf files number with
  | none =>
      refine ⟨files, ?_, ?_⟩
      · simp [moveUp, source, standing]
      · rw [Shelf.lift_of_none standing]
        exact .refl log files
  | some node =>
      cases node with
      | directory => exact absurd standing (can.flat _ (Nat.le_of_lt bound))
      | file mode content =>
          cases above : log.shelf files (number + 1) with
          | none =>
              obtain ⟨after, moved, changes⟩ :=
                relocate_numbered stands can bound standing
              exact ⟨after, by simp [moveUp, source, standing, target, above,
                moved], changes⟩
          | some node =>
              cases node with
              | directory => exact absurd above (can.flat _ bound)
              | file otherMode other =>
                  obtain ⟨cleared, unlinked, clears⟩ :=
                    unlink_numbered stands can bound above
                  have flat := can.flat.clear (number + 1)
                  have standsThen :=
                    stands.transfer (clears.sameDirectories can.flat flat)
                  have canThen := can.of_changes clears flat
                  have standingThen : log.shelf cleared number =
                      some (.file mode content) := by
                    simp [clears.shelf_eq, Shelf.clear, standing]
                  obtain ⟨after, moved, changes⟩ :=
                    relocate_numbered standsThen canThen bound standingThen
                  rw [clears.shelf_eq, Shelf.lift_clear standing] at changes
                  exact ⟨after, by simp [moveUp, source, standing, target,
                    above, unlinked, moved], clears.trans changes⟩

/-! ## All files move up -/

theorem moveUpBelow_changes {count : Nat}
    (stands : log.StandsIn files directory name) (can : log.CanRotate files)
    (bound : count ≤ backups) :
    ∃ after, moveUpBelow log.path count files = .ok after ∧
      log.Changes files ((log.shelf files).raise count) after := by
  induction count generalizing files with
  | zero =>
      rw [Shelf.raise_zero]
      exact ⟨files, rfl, .refl log files⟩
  | succ count ih =>
      obtain ⟨middle, moved, changes⟩ := moveUp_changes stands can bound
      have flat := can.flat.lift bound
      obtain ⟨after, movedThen, changesThen⟩ :=
        ih (stands.transfer (changes.sameDirectories can.flat flat))
          (can.of_changes changes flat) (Nat.le_of_lt bound)
      rw [changes.shelf_eq, Shelf.raise_lift] at changesThen
      exact ⟨after, by simp [moveUpBelow, moved, movedThen],
        changes.trans changesThen⟩

/-- A file has been put in the place of the log file. -/
theorem put_changes (stands : log.StandsIn files directory name)
    (node : Node) :
    log.Changes files ((log.shelf files).put node)
      (files.put log.location node) := by
  have location := stands.location_eq_numbered
  constructor
  · funext number
    rw [shelf, location, FileSystem.node?_put numberedLocation_ne_nil]
    cases number with
    | zero => exact if_pos rfl
    | succ number =>
        have other : log.numberedLocation 0 ≠
            log.numberedLocation (number + 1) :=
          fun same => nomatch numberedLocation_injective same
        exact if_neg other
  · intro other elsewhere
    rw [location, FileSystem.node?_put numberedLocation_ne_nil,
      if_neg (elsewhere 0 (Nat.zero_le _))]

/-- Setting the log file aside raises its shelf and begins a new file. -/
theorem rotate_changes (attached : log.stream = .attached)
    (stands : log.StandsIn files directory name)
    (can : log.CanRotate files) :
    ∃ after, log.rotate files = (after, log) ∧
      log.Changes files (((log.shelf files).raise backups).put
        (.file FileSystem.publicMode ByteArray.empty)) after := by
  obtain ⟨moved, moves, changes⟩ :=
    moveUpBelow_changes stands can (Nat.le_refl backups)
  have flat := can.flat.raise (Nat.le_refl backups)
  have standsThen := stands.transfer (changes.sameDirectories can.flat flat)
  have free : moved.node? (directory.child name) = none := by
    have raised : log.shelf moved 0 = none := by
      rw [changes.shelf_eq]
      rfl
    rwa [← stands.location_eq, stands.location_eq_numbered]
  have opens := FileSystem.openFile_of_free stands.accepted standsThen.entered
    stands.last stands.admitted free
  have reopens := put_changes standsThen
    (.file FileSystem.publicMode ByteArray.empty)
  rw [changes.shelf_eq] at reopens
  refine ⟨_, ?_, changes.trans reopens⟩
  rw [← stands.location_eq] at opens
  obtain ⟨path, location, stream⟩ := log
  cases attached
  simp only [rotate, moves, reopen, opens]

end

end PalletTypes.Log.LogFile
