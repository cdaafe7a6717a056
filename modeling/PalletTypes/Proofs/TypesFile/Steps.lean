import Mathlib.Logic.Relation
import PalletTypes.Proofs.FileSystem.Contents
import PalletTypes.Proofs.TypesFile.Endings
import PalletTypes.Proofs.TypesFile.Temporary

/-!
# The steps of a writing

A writing changes the file system in several steps, and others may act between
them.  It creates its temporary file under a free name, fills it with the
document in any number of pieces, opens it to readers and moves it to its
target.  A step that is refused makes it remove the temporary file instead,
except that a target which cannot be handed to the system makes it give up at
once.  Whatever `write` does is a run of these steps with nothing between them.

A step only changes what stands at the writing's own temporary location and at
its target, and at the target only the whole document ever comes to stand.
-/

namespace PalletTypes

/-- Appending to a new file fills it. -/
theorem FileSystem.setMode_append_create {files created : FileSystem}
    {place : Place} {directory : Path} {name : Text} {location : Location}
    (success : files.create place directory name = .ok (location, created))
    (bytes : ByteArray) :
    (created.append location bytes).setMode location publicMode =
      files.publish location bytes := by
  obtain ⟨_, _, _, _, _, free, rfl⟩ := create_eq_ok_iff.mp success
  have named := ne_nil_of_free free
  simp [append, setMode, publish, node?_put named, put_put]

namespace TypesFile

/-- A table that a process in the given place writes to a path. -/
structure Job where
  place : Place
  table : TypeTable
  path : Path

/-- How far a writing has come. -/
inductive Phase where
  | waiting
  /-- The rest of the document is still missing in the temporary file. -/
  | filling (location : Location) (rest : ByteArray)
  /-- The temporary file has the whole document and is open to readers. -/
  | complete (location : Location)
  /-- A step was refused, and the temporary file is to be removed. -/
  | failing (location : Location)
  /-- The writing was given up, and nobody removes the temporary file. -/
  | stranded (location : Location)
  | finished

namespace Phase

/-- The location of the temporary file, while there is one. -/
def temporary? : Phase → Option Location
  | .filling location _ | .complete location | .failing location
  | .stranded location => some location
  | .waiting | .finished => none

/-- There are no more steps to take. -/
def hasEnded : Phase → Bool
  | .stranded _ | .finished => true
  | .waiting | .filling _ _ | .complete _ | .failing _ => false

end Phase

/-- The file system, and how far a writing has come in it. -/
structure Progress where
  files : FileSystem
  phase : Phase

/-- The steps of a writing. -/
inductive Job.Step (job : Job) : Progress → Progress → Prop where
  | unserializable {files : FileSystem} {defect : Json.Defect}
      (refused : encode job.table = .error defect) :
      Step job ⟨files, .waiting⟩ ⟨files, .finished⟩
  | homeless {files : FileSystem}
      (lost : stagingDirectory? job.place job.path = none) :
      Step job ⟨files, .waiting⟩ ⟨files, .finished⟩
  | notCreated {files : FileSystem} {directory : Path} {name : Text}
      {error : AccessError}
      (staging : stagingDirectory? job.place job.path = some directory)
      (refused : files.create .top directory name = .error error) :
      Step job ⟨files, .waiting⟩ ⟨files, .finished⟩
  | create {files created : FileSystem} {directory : Path} {name : Text}
      {location : Location} {bytes : ByteArray}
      (encoded : encode job.table = .ok bytes)
      (staging : stagingDirectory? job.place job.path = some directory)
      (isTemporary : IsTemporaryName name)
      (creation : files.create .top directory name = .ok (location, created)) :
      Step job ⟨files, .waiting⟩ ⟨created, .filling location bytes⟩
  | append {files : FileSystem} {location : Location}
      (chunk rest : ByteArray) :
      Step job ⟨files, .filling location (chunk ++ rest)⟩
        ⟨files.append location chunk, .filling location rest⟩
  | publish {files : FileSystem} {location : Location} :
      Step job ⟨files, .filling location ByteArray.empty⟩
        ⟨files.setMode location FileSystem.publicMode, .complete location⟩
  | move {files after : FileSystem} {location : Location}
      (moved : files.rename location job.place job.path = .ok after) :
      Step job ⟨files, .complete location⟩ ⟨after, .finished⟩
  /-- The system may refuse to fill a file or to open it to readers. -/
  | notFilled {files : FileSystem} {location : Location} {rest : ByteArray} :
      Step job ⟨files, .filling location rest⟩ ⟨files, .failing location⟩
  /-- The system may refuse to move a file. -/
  | notMoved {files : FileSystem} {location : Location} :
      Step job ⟨files, .complete location⟩ ⟨files, .failing location⟩
  | strand {files : FileSystem} {location : Location} {defect : PathDefect}
      (refused : files.rename location job.place job.path =
        .error (.defective defect)) :
      Step job ⟨files, .complete location⟩ ⟨files, .stranded location⟩
  | remove {files : FileSystem} {location : Location} :
      Step job ⟨files, .failing location⟩ ⟨files.erase location, .finished⟩

/-! ## Writings with nothing between their steps -/

section

variable {job : Job} {files : FileSystem} {temporary : Text}

/-- The steps that stage the document. -/
theorem steps_of_staged {bytes : ByteArray} {directory : Path}
    {location : Location} (isTemporary : IsTemporaryName temporary)
    (staged : Staged files job.place temporary job.table job.path bytes
      directory location) :
    Relation.ReflTransGen job.Step ⟨files, .waiting⟩
      ⟨files.publish location bytes, .complete location⟩ := by
  obtain ⟨created, creation⟩ := staged.created
  have create : job.Step ⟨files, .waiting⟩
      ⟨created, .filling location (bytes ++ ByteArray.empty)⟩ := by
    rw [ByteArray.append_empty]
    exact .create staged.encoded staged.staging isTemporary creation
  have publish : job.Step
      ⟨created.append location bytes, .filling location ByteArray.empty⟩
      ⟨files.publish location bytes, .complete location⟩ := by
    rw [← FileSystem.setMode_append_create creation bytes]
    exact .publish
  exact ((Relation.ReflTransGen.single create).tail (.append _ _)).tail publish

/-- A writing takes its steps one after another. -/
theorem steps_write (files : FileSystem) (job : Job) (temporary : Text)
    (isTemporary : IsTemporaryName temporary) :
    ∃ phase, phase.hasEnded = true ∧
      Relation.ReflTransGen job.Step ⟨files, .waiting⟩
        ⟨(write files job.place temporary true job.table job.path).files,
          phase⟩ := by
  have ending := ending_write files job.place temporary true job.table job.path
  generalize write files job.place temporary true job.table job.path = written
    at ending
  cases ending with
  | unserializable refused =>
      exact ⟨.finished, rfl, .single (.unserializable refused)⟩
  | homeless encoded lost => exact ⟨.finished, rfl, .single (.homeless lost)⟩
  | notCreated encoded staging refused =>
      exact ⟨.finished, rfl, .single (.notCreated staging refused)⟩
  | unnameable encoded staging refused =>
      exact ⟨.finished, rfl, .single (.notCreated staging refused)⟩
  | @undone bytes directory location cause staged refused removed =>
      obtain ⟨created, creation⟩ := staged.created
      have free := FileSystem.free_of_create creation
      have removal : job.Step ⟨files.publish location bytes, .failing location⟩
          ⟨(files.publish location bytes).erase location, .finished⟩ := .remove
      rw [FileSystem.erase_publish free] at removal
      exact ⟨.finished, rfl,
        ((steps_of_staged isTemporary staged).tail .notMoved).tail removal⟩
  | leftover staged refused kept => exact nomatch kept
  | @stranded bytes directory location defect staged refused =>
      have given : (files.publish location bytes).rename location job.place
          job.path = .error (.defective defect) :=
        FileSystem.rename_eq_error_iff.mpr refused
      exact ⟨.stranded location, rfl,
        (steps_of_staged isTemporary staged).tail (.strand given)⟩
  | @landed bytes directory location target staged landing =>
      obtain ⟨created, creation⟩ := staged.created
      have free := FileSystem.free_of_create creation
      have moved : (files.publish location bytes).rename location job.place
          job.path = .ok (files.publish target bytes) := by
        have landingAfter : (files.publish location bytes).landing job.place
            job.path = .ok target :=
          (FileSystem.landing_publish_iff free).mpr landing
        exact FileSystem.rename_eq_ok_iff.mpr
          ⟨target, landingAfter, FileSystem.move_publish free target bytes⟩
      exact ⟨.finished, rfl,
        (steps_of_staged isTemporary staged).tail (.move moved)⟩

end

/-! ## What a step changes -/

/-- The last name of the path is not one that a temporary file can have. -/
def IsAside (path : Path) : Prop :=
  ∀ name, path.names.getLast? = some name → ¬IsTemporaryName name

/-- Nothing lands aside under a name that a temporary file can have. -/
theorem not_isTemporaryLocation_of_landing {files : FileSystem} {place : Place}
    {path : Path} {target : Location} (aside : IsAside path)
    (landing : files.landing place path = .ok target) :
    ¬IsTemporaryLocation target := by
  obtain ⟨_, directory, name, _, last, _, rfl, _⟩ :=
    FileSystem.landing_eq_ok_iff.mp landing
  rw [isTemporaryLocation_child_iff]
  exact aside name last

namespace Job

/-- In the later files the whole document of the job stands where it lands in
the first ones. -/
def HasLanded (job : Job) (files later : FileSystem) (location : Location) :
    Prop :=
  files.landing job.place job.path = .ok location ∧
    ∃ bytes, encode job.table = .ok bytes ∧
      later.node? location = some (.file FileSystem.publicMode bytes)

/-- The temporary file holds what it should: the document up to the rest, or
all of it once the file is open to readers.  Only a writing whose path has a
defect is given up. -/
def Keeps (job : Job) (files : FileSystem) : Phase → Prop
  | .waiting | .finished => True
  | .filling location rest =>
      ∃ written, encode job.table = .ok (written ++ rest) ∧
        files.node? location = some (.file FileSystem.privateMode written)
  | .complete location =>
      ∃ bytes, encode job.table = .ok bytes ∧
        files.node? location = some (.file FileSystem.publicMode bytes)
  | .failing location =>
      ∃ mode content, files.node? location = some (.file mode content)
  | .stranded location =>
      job.path.defect? ≠ none ∧
        ∃ mode content, files.node? location = some (.file mode content)

section

variable {job : Job} {files other : FileSystem} {phase : Phase}
  {location : Location}

theorem Keeps.exists_file (keeps : job.Keeps files phase)
    (held : phase.temporary? = some location) :
    ∃ mode content, files.node? location = some (.file mode content) := by
  cases phase with
  | waiting | finished => exact nomatch held
  | filling own rest =>
      obtain ⟨written, _, standing⟩ := keeps
      cases held
      exact ⟨_, _, standing⟩
  | complete own =>
      obtain ⟨bytes, _, standing⟩ := keeps
      cases held
      exact ⟨_, _, standing⟩
  | failing own =>
      cases held
      exact keeps
  | stranded own =>
      cases held
      exact keeps.2

/-- Nothing but the temporary file matters. -/
theorem Keeps.congr (keeps : job.Keeps files phase)
    (same : ∀ location, phase.temporary? = some location →
      other.node? location = files.node? location) :
    job.Keeps other phase := by
  cases phase with
  | waiting | finished => trivial
  | filling own rest | complete own | failing own | stranded own =>
      simp only [Keeps, same own rfl]
      exact keeps

end

namespace Step

variable {job : Job} {before after : Progress} {location : Location}

/-- A step keeps the temporary file as it should be. -/
theorem keeps (step : job.Step before after)
    (sound : job.Keeps before.files before.phase) :
    job.Keeps after.files after.phase := by
  cases step with
  | unserializable refused => trivial
  | homeless lost => trivial
  | notCreated staging refused => trivial
  | create encoded staging isTemporary creation =>
      obtain ⟨_, _, _, _, _, free, rfl⟩ :=
        FileSystem.create_eq_ok_iff.mp creation
      refine ⟨ByteArray.empty, by rwa [ByteArray.empty_append], ?_⟩
      rw [FileSystem.node?_put (FileSystem.ne_nil_of_free free), if_pos rfl]
  | append chunk rest =>
      obtain ⟨written, encoded, standing⟩ := sound
      refine ⟨written ++ chunk, by rwa [ByteArray.append_assoc], ?_⟩
      rw [FileSystem.node?_append standing, if_pos rfl]
  | publish =>
      obtain ⟨written, encoded, standing⟩ := sound
      refine ⟨written, by rwa [ByteArray.append_empty] at encoded, ?_⟩
      rw [FileSystem.node?_setMode standing, if_pos rfl]
  | move moved => trivial
  | notFilled => exact sound.exists_file rfl
  | notMoved => exact sound.exists_file rfl
  | strand refused =>
      have defective := FileSystem.landing_eq_defective_iff.mp
        (FileSystem.rename_eq_error_iff.mp refused)
      exact ⟨by simp [defective], sound.exists_file rfl⟩
  | remove => trivial

/-- A temporary file that is new stands under a free name of its own kind. -/
theorem temporary_or (step : job.Step before after)
    (held : after.phase.temporary? = some location) :
    before.phase.temporary? = some location ∨
      before.files.node? location = none ∧ IsTemporaryLocation location := by
  cases step with
  | unserializable | homeless | notCreated | move | remove => exact nomatch held
  | append | publish | notFilled | notMoved | strand => exact Or.inl held
  | create encoded staging isTemporary creation =>
      obtain ⟨_, parent, _, _, rfl, free, _⟩ :=
        FileSystem.create_eq_ok_iff.mp creation
      cases held
      exact Or.inr ⟨free, isTemporaryLocation_child_iff.mpr isTemporary⟩

/-- A temporary file that a writing does not hold any more is gone. -/
theorem temporary_or_free (step : job.Step before after)
    (sound : job.Keeps before.files before.phase)
    (aside : IsAside job.path) (isTemporary : IsTemporaryLocation location)
    (held : before.phase.temporary? = some location) :
    after.phase.temporary? = some location ∨
      after.files.node? location = none := by
  cases step with
  | unserializable | homeless | notCreated | create => exact nomatch held
  | append | publish | notFilled | notMoved | strand => exact Or.inl held
  | move moved =>
      obtain ⟨target, landing, rfl⟩ := FileSystem.rename_eq_ok_iff.mp moved
      obtain ⟨mode, content, standing⟩ := sound.exists_file held
      have named := FileSystem.ne_nil_of_landing landing
      have elsewhere : target ≠ location := by
        rintro rfl
        exact not_isTemporaryLocation_of_landing aside landing isTemporary
      cases held
      right
      rw [FileSystem.node?_move standing named, if_neg elsewhere, if_pos rfl]
  | remove =>
      obtain ⟨mode, content, standing⟩ := sound.exists_file held
      cases held
      right
      rw [FileSystem.node?_erase (FileSystem.ne_nil_of_file standing),
        if_pos rfl]

/-- Elsewhere a step changes nothing, except that it lets the whole document
land. -/
theorem node?_eq_or_hasLanded (step : job.Step before after)
    (sound : job.Keeps before.files before.phase)
    (foreign : before.phase.temporary? ≠ some location)
    (foreignAfter : after.phase.temporary? ≠ some location) :
    after.files.node? location = before.files.node? location ∨
      job.HasLanded before.files after.files location := by
  cases step with
  | unserializable | homeless | notCreated | notFilled | notMoved | strand =>
      exact Or.inl rfl
  | create encoded staging isTemporary creation =>
      obtain ⟨_, _, _, _, _, free, rfl⟩ :=
        FileSystem.create_eq_ok_iff.mp creation
      left
      rw [FileSystem.node?_put (FileSystem.ne_nil_of_free free),
        if_neg fun same => foreignAfter (congrArg some same)]
  | append chunk rest =>
      obtain ⟨written, encoded, standing⟩ := sound
      left
      rw [FileSystem.node?_append standing,
        if_neg fun same => foreign (congrArg some same)]
  | publish =>
      obtain ⟨written, encoded, standing⟩ := sound
      left
      rw [FileSystem.node?_setMode standing,
        if_neg fun same => foreign (congrArg some same)]
  | move moved =>
      obtain ⟨target, landing, rfl⟩ := FileSystem.rename_eq_ok_iff.mp moved
      obtain ⟨bytes, encoded, standing⟩ := sound
      have named := FileSystem.ne_nil_of_landing landing
      have changed := FileSystem.node?_move standing named location
      by_cases lands : target = location
      · subst lands
        rw [if_pos rfl] at changed
        exact Or.inr ⟨landing, bytes, encoded, changed⟩
      · rw [if_neg lands,
          if_neg fun same => foreign (congrArg some same.symm)] at changed
        exact Or.inl changed
  | remove =>
      obtain ⟨mode, content, standing⟩ := sound.exists_file rfl
      left
      rw [FileSystem.node?_erase (FileSystem.ne_nil_of_file standing),
        if_neg fun same => foreign (congrArg some same.symm)]

end Step

end Job

end TypesFile

end PalletTypes
