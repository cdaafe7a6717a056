import PalletTypes.Proofs.FileSystem.Landing
import PalletTypes.TypesFile.Write

/-!
# How a writing ends

A writing takes four steps: it makes the document, finds the directory of the
temporary file, puts the document into a new file there, and moves that file to
its target.  `Ending` lists the outcomes by the first step that fails, with the
file system each leaves behind, and `ending_write` says that there are no
others.
-/

namespace PalletTypes

namespace FileSystem

/-- The file system with a public file at a location. -/
def publish (files : FileSystem) (location : Location) (bytes : ByteArray) :
    FileSystem :=
  files.put location (.file publicMode bytes)

theorem node?_publish {location : Location} (named : location ≠ [])
    (files : FileSystem) (other : Location) (bytes : ByteArray) :
    (files.publish location bytes).node? other =
      if location = other then some (.file publicMode bytes)
      else files.node? other :=
  node?_put named files other _

theorem setMode_fill_create {files created : FileSystem} {place : Place}
    {directory : Path} {name : Text} {location : Location}
    (success : files.create place directory name = .ok (location, created))
    (bytes : ByteArray) :
    (created.fill location bytes).setMode location publicMode =
      files.publish location bytes := by
  obtain ⟨_, _, _, _, _, free, rfl⟩ := create_eq_ok_iff.mp success
  have named := ne_nil_of_free free
  simp [fill, setMode, publish, node?_put named, put_put]

theorem free_of_create {files created : FileSystem} {place : Place}
    {directory : Path} {name : Text} {location : Location}
    (success : files.create place directory name = .ok (location, created)) :
    files.node? location = none := by
  obtain ⟨_, _, _, _, _, free, _⟩ := create_eq_ok_iff.mp success
  exact free

theorem erase_publish {files : FileSystem} {location : Location}
    (free : files.node? location = none) (bytes : ByteArray) :
    (files.publish location bytes).erase location = files :=
  erase_put_of_free free _

/-- A file under a free name does not change where other files land. -/
theorem landing_publish_iff {files : FileSystem} {location : Location}
    (free : files.node? location = none) {bytes : ByteArray} {place : Place}
    {path : Path} {target : Location} :
    (files.publish location bytes).landing place path = .ok target ↔
      files.landing place path = .ok target := by
  have same : files.SameDirectories (files.publish location bytes) :=
    sameDirectories_put_file (by simp [free]) _ _
  exact ⟨same.symm.landing, same.landing⟩

/-- Moving a file away from where it was published is publishing it at its
target. -/
theorem move_publish {files : FileSystem} {source : Location}
    (free : files.node? source = none) (target : Location)
    (bytes : ByteArray) :
    (files.publish source bytes).move source target =
      files.publish target bytes := by
  have named := ne_nil_of_free free
  simp [move, publish, node?_put named, erase_put_of_free free]

end FileSystem

namespace TypesFile

/-- The document of a table stands in a new public file at a location of the
staging directory. -/
structure Staged (files : FileSystem) (place : Place) (temporary : Text)
    (table : TypeTable) (path : Path) (bytes : ByteArray)
    (directory : Path) (location : Location) : Prop where
  encoded : encode table = .ok bytes
  staging : stagingDirectory? place path = some directory
  created : ∃ created,
    files.create .top directory temporary = .ok (location, created)

/-- The outcomes of a writing. -/
inductive Ending (files : FileSystem) (place : Place) (temporary : Text)
    (removable : Bool) (table : TypeTable) (path : Path) :
    Outcome Nat → Prop where
  /-- The table has no document. -/
  | unserializable {defect : Json.Defect}
      (refused : encode table = .error defect) :
      Ending files place temporary removable table path
        (failed files [] path (.unserializable defect))
  /-- The path starts from a working directory that is gone. -/
  | homeless {bytes : ByteArray} (encoded : encode table = .ok bytes)
      (lost : stagingDirectory? place path = none) :
      Ending files place temporary removable table path
        (failed files [] path (.notCreated .missing))
  /-- The temporary file is refused. -/
  | notCreated {bytes : ByteArray} {directory : Path} {cause : FileError}
      (encoded : encode table = .ok bytes)
      (staging : stagingDirectory? place path = some directory)
      (refused : files.create .top directory temporary =
        .error (.refused cause)) :
      Ending files place temporary removable table path
        (failed files [] path (.notCreated cause))
  /-- The path of the temporary file cannot be handed to the system. -/
  | unnameable {bytes : ByteArray} {directory : Path} {defect : PathDefect}
      (encoded : encode table = .ok bytes)
      (staging : stagingDirectory? place path = some directory)
      (refused : files.create .top directory temporary =
        .error (.defective defect)) :
      Ending files place temporary removable table path
        ⟨files, [], .error (.defective defect)⟩
  /-- The move is refused, and the temporary file is removed. -/
  | undone {bytes : ByteArray} {directory : Path} {location : Location}
      {cause : FileError}
      (staged : Staged files place temporary table path bytes directory
        location)
      (refused : (files.publish location bytes).landing place path =
        .error (.refused cause))
      (removed : removable = true) :
      Ending files place temporary removable table path
        (failed files [] path (.notWritten cause))
  /-- The move is refused, and the temporary file cannot be removed. -/
  | leftover {bytes : ByteArray} {directory : Path} {location : Location}
      {cause : FileError}
      (staged : Staged files place temporary table path bytes directory
        location)
      (refused : (files.publish location bytes).landing place path =
        .error (.refused cause))
      (kept : removable = false) :
      Ending files place temporary removable table path
        (failed (files.publish location bytes)
          [leftoverRecord (directory.join (.ofText temporary))] path
          (.notWritten cause))
  /-- The target cannot be handed to the system, and the temporary file
  stays. -/
  | stranded {bytes : ByteArray} {directory : Path} {location : Location}
      {defect : PathDefect}
      (staged : Staged files place temporary table path bytes directory
        location)
      (refused : (files.publish location bytes).landing place path =
        .error (.defective defect)) :
      Ending files place temporary removable table path
        ⟨files.publish location bytes, [], .error (.defective defect)⟩
  /-- The file has been moved to its target. -/
  | landed {bytes : ByteArray} {directory : Path} {location : Location}
      {target : Location}
      (staged : Staged files place temporary table path bytes directory
        location)
      (landing : files.landing place path = .ok target) :
      Ending files place temporary removable table path
        ⟨files.publish target bytes, [writtenRecord bytes path],
          .ok bytes.size⟩

theorem write_of_staged {files : FileSystem} {place : Place}
    {temporary : Text} {table : TypeTable} {path : Path} {bytes : ByteArray}
    {directory : Path} {location : Location}
    (staged : Staged files place temporary table path bytes directory location)
    (removable : Bool) :
    write files place temporary removable table path =
      settle (files.publish location bytes) place location
        (directory.join (.ofText temporary)) removable bytes path := by
  obtain ⟨created, success⟩ := staged.created
  simp only [write, staged.encoded, staged.staging, replace, success,
    FileSystem.setMode_fill_create success]

/-- A staged document lands where its target allows it. -/
theorem write_of_landing {files : FileSystem} {place : Place}
    {temporary : Text} {table : TypeTable} {path : Path} {bytes : ByteArray}
    {directory : Path} {location target : Location}
    (staged : Staged files place temporary table path bytes directory location)
    (landing : files.landing place path = .ok target) (removable : Bool) :
    write files place temporary removable table path =
      ⟨files.publish target bytes, [writtenRecord bytes path],
        .ok bytes.size⟩ := by
  obtain ⟨created, success⟩ := staged.created
  have free := FileSystem.free_of_create success
  have landingAfter : (files.publish location bytes).landing place path =
      .ok target := (FileSystem.landing_publish_iff free).mpr landing
  rw [write_of_staged staged]
  simp only [settle, FileSystem.rename, landingAfter,
    FileSystem.move_publish free]

theorem ending_settle {files : FileSystem} {place : Place} {temporary : Text}
    {table : TypeTable} {path : Path} {bytes : ByteArray} {directory : Path}
    {location : Location}
    (staged : Staged files place temporary table path bytes directory location)
    (removable : Bool) :
    Ending files place temporary removable table path
      (settle (files.publish location bytes) place location
        (directory.join (.ofText temporary)) removable bytes path) := by
  obtain ⟨created, success⟩ := staged.created
  have free := FileSystem.free_of_create success
  unfold settle FileSystem.rename
  cases landing : (files.publish location bytes).landing place path with
  | ok target =>
      simp only [FileSystem.move_publish free]
      exact .landed staged ((FileSystem.landing_publish_iff free).mp landing)
  | error error =>
      cases error with
      | defective defect => exact .stranded staged landing
      | refused cause =>
          cases removable with
          | true =>
              simp only [if_true, FileSystem.erase_publish free]
              exact .undone staged landing rfl
          | false => exact .leftover staged landing rfl

/-- Every writing ends in one of the listed ways. -/
theorem ending_write (files : FileSystem) (place : Place) (temporary : Text)
    (removable : Bool) (table : TypeTable) (path : Path) :
    Ending files place temporary removable table path
      (write files place temporary removable table path) := by
  cases encoded : encode table with
  | error defect =>
      simp only [write, encoded]
      exact .unserializable encoded
  | ok bytes =>
      cases staging : stagingDirectory? place path with
      | none =>
          simp only [write, encoded, staging]
          exact .homeless encoded staging
      | some directory =>
          cases creation : files.create .top directory temporary with
          | error error =>
              simp only [write, encoded, staging, replace, creation]
              cases error with
              | defective defect => exact .unnameable encoded staging creation
              | refused cause => exact .notCreated encoded staging creation
          | ok pair =>
              obtain ⟨location, created⟩ := pair
              have staged : Staged files place temporary table path bytes
                  directory location := ⟨encoded, staging, created, creation⟩
              rw [write_of_staged staged]
              exact ending_settle staged removable

end TypesFile

end PalletTypes
