import Mathlib.Logic.Function.Basic
import PalletTypes.Proofs.TypesFile.Document
import PalletTypes.Proofs.TypesFile.Steps

/-!
# Writings at the same time

Any number of writings go on in one file system.  At each moment one of them
takes a step, in any order, and a process that is killed takes no more steps.
A writing that has a temporary file is the only one that has it: the file's
name was free when the writing took it, and nothing that is aside of such names
lands there.  So every writing fills and removes its own file only, and what
has landed is a whole document.
-/

namespace PalletTypes

namespace FileSystem

/-- With the same directories a path leads to the same as before, unless
something else stands under its last name. -/
theorem SameDirectories.walk_or {files later : FileSystem}
    (same : files.SameDirectories later) (place : Place) (path : Path) :
    (later.walk place path).toOption = (files.walk place path).toOption ∨
      ∃ directory name, path.names.getLast? = some name ∧
        later.enter place path.parent = .ok directory ∧
        directory.Admits name ∧
        later.node? (directory.child name) ≠
          files.node? (directory.child name) := by
  cases last : path.names.getLast? with
  | none =>
      have nameless := List.getLast?_eq_none_iff.mp last
      left
      simp [walk, nameless, follow]
  | some name =>
      rw [walk_of_last last, walk_of_last last]
      cases entered : files.enter place path.parent with
      | error cause =>
          cases enteredLater : later.enter place path.parent with
          | error other => exact Or.inl rfl
          | ok directory =>
              rw [same.symm.enter enteredLater] at entered
              cases entered
      | ok directory =>
          rw [same.enter entered]
          by_cases goesUp : name = upward
          · left
            simp only [goesUp, find_upward]
          · by_cases admitted : directory.Admits name
            · by_cases unchanged : later.node? (directory.child name) =
                files.node? (directory.child name)
              · left
                simp only [find_of_admits admitted, unchanged]
              · exact Or.inr ⟨directory, name, rfl, rfl, admitted, unchanged⟩
            · have refused : ∀ files : FileSystem,
                  (files.find directory name).toOption = none := by
                intro files
                rcases find_of_not_admits goesUp admitted files with
                  long | ⟨_, missing⟩
                · rw [long]
                  rfl
                · rw [missing]
                  rfl
              exact Or.inl ((refused later).trans (refused files).symm)

end FileSystem

namespace TypesFile

/-- The file system, and how far each writing has come in it. -/
structure World (ι : Type) where
  files : FileSystem
  phases : ι → Phase

namespace World

variable {ι : Type} {jobs : ι → Job} {files : FileSystem}
  {world before after : World ι}

/-- No writing has begun. -/
def start (files : FileSystem) : World ι := ⟨files, fun _ => .waiting⟩

/-- One writing takes a step, and all others stay as they are. -/
def Step (jobs : ι → Job) (before after : World ι) : Prop :=
  ∃ index,
    (jobs index).Step ⟨before.files, before.phases index⟩
      ⟨after.files, after.phases index⟩ ∧
    ∀ other, other ≠ index → after.phases other = before.phases other

/-- The world after any number of steps. -/
def Reaches (jobs : ι → Job) (files : FileSystem) (world : World ι) : Prop :=
  Relation.ReflTransGen (Step jobs) (start files) world

/-- The writing has its temporary file at the location. -/
def Holds (world : World ι) (index : ι) (location : Location) : Prop :=
  (world.phases index).temporary? = some location

/-- What holds at every moment: each writing has a temporary file of its own,
under a name that was free at the start, and elsewhere everything is as it was
or a whole document. -/
structure Sound (jobs : ι → Job) (files : FileSystem) (world : World ι) :
    Prop where
  own : ∀ {index : ι} {location : Location}, world.Holds index location →
    files.node? location = none ∧ IsTemporaryLocation location
  apart : ∀ {index other : ι} {location : Location},
    world.Holds index location → world.Holds other location → index = other
  keeps : ∀ index, (jobs index).Keeps world.files (world.phases index)
  others : ∀ {location : Location},
    (∀ index, ¬world.Holds index location) →
      world.files.node? location = files.node? location ∨
        ∃ index, (jobs index).HasLanded files world.files location

namespace Sound

theorem start (jobs : ι → Job) (files : FileSystem) :
    Sound jobs files (World.start files) where
  own := fun held => nomatch held
  apart := fun held => nomatch held
  keeps := fun _ => trivial
  others := fun _ => Or.inl rfl

theorem exists_file (sound : Sound jobs files world) {index : ι}
    {location : Location} (held : world.Holds index location) :
    ∃ mode content, world.files.node? location = some (.file mode content) :=
  (sound.keeps index).exists_file held

/-- What is free belongs to nobody. -/
theorem not_holds_of_free (sound : Sound jobs files world)
    {location : Location} (free : world.files.node? location = none)
    (index : ι) : ¬world.Holds index location := by
  intro held
  obtain ⟨mode, content, standing⟩ := sound.exists_file held
  exact nomatch free.symm.trans standing

/-- What is free has been free from the start. -/
theorem free_of_free (sound : Sound jobs files world) {location : Location}
    (free : world.files.node? location = none) :
    files.node? location = none := by
  rcases sound.others (sound.not_holds_of_free free) with
    unchanged | ⟨index, _, bytes, _, standing⟩
  · exact unchanged.symm.trans free
  · exact nomatch free.symm.trans standing

theorem sameDirectories (sound : Sound jobs files world) :
    files.SameDirectories world.files := by
  intro location
  by_cases held : ∃ index, world.Holds index location
  · obtain ⟨index, held⟩ := held
    obtain ⟨mode, content, standing⟩ := sound.exists_file held
    simp [(sound.own held).1, standing]
  · rw [not_exists] at held
    rcases sound.others held with
      unchanged | ⟨index, landing, bytes, _, standing⟩
    · rw [unchanged]
    · simp [FileSystem.not_directory_of_landing landing, standing]

/-- A document that lands does so where it would have landed at the start. -/
theorem hasLanded (sound : Sound jobs files world) {index : ι}
    {later : FileSystem} {location : Location}
    (landed : (jobs index).HasLanded world.files later location) :
    (jobs index).HasLanded files later location :=
  ⟨sound.sameDirectories.symm.landing landed.1, landed.2⟩

section

variable {mover other : ι} {location : Location}
  (sound : Sound jobs files before)
  (moves : (jobs mover).Step ⟨before.files, before.phases mover⟩
    ⟨after.files, after.phases mover⟩)

include sound moves

/-- The temporary file that a writing takes belongs to no other one. -/
theorem not_holds_of_moves (different : other ≠ mover)
    (held : before.Holds other location) : ¬after.Holds mover location := by
  intro heldAfter
  rcases moves.temporary_or heldAfter with heldBefore | ⟨free, _⟩
  · exact different (sound.apart held heldBefore)
  · exact sound.not_holds_of_free free other held

/-- A step leaves the temporary files of the other writings alone. -/
theorem node?_of_moves (aside : IsAside (jobs mover).path)
    (different : other ≠ mover) (held : before.Holds other location) :
    after.files.node? location = before.files.node? location := by
  have foreign : ¬before.Holds mover location :=
    fun heldToo => different (sound.apart held heldToo)
  have foreignAfter := sound.not_holds_of_moves moves different held
  rcases moves.node?_eq_or_hasLanded (sound.keeps mover) foreign
    foreignAfter with unchanged | landed
  · exact unchanged
  · exact absurd (sound.own held).2
      (not_isTemporaryLocation_of_landing aside landed.1)

end

/-- What holds at a moment holds after a step of any writing. -/
theorem step (aside : ∀ index, IsAside (jobs index).path)
    (sound : Sound jobs files before) (step : Step jobs before after) :
    Sound jobs files after := by
  obtain ⟨mover, moves, still⟩ := step
  have stays : ∀ {other : ι} {location : Location}, other ≠ mover →
      (after.Holds other location ↔ before.Holds other location) := by
    intro other location different
    rw [Holds, Holds, still other different]
  constructor
  case own =>
    intro index location held
    by_cases moved : index = mover
    · subst moved
      rcases moves.temporary_or held with heldBefore | ⟨free, isTemporary⟩
      · exact sound.own heldBefore
      · exact ⟨sound.free_of_free free, isTemporary⟩
    · exact sound.own ((stays moved).mp held)
  case apart =>
    intro index other location held heldToo
    by_cases moved : index = mover <;> by_cases movedToo : other = mover
    · exact moved.trans movedToo.symm
    · subst moved
      exact absurd held
        (sound.not_holds_of_moves moves movedToo ((stays movedToo).mp heldToo))
    · subst movedToo
      exact absurd heldToo
        (sound.not_holds_of_moves moves moved ((stays moved).mp held))
    · exact sound.apart ((stays moved).mp held) ((stays movedToo).mp heldToo)
  case keeps =>
    intro index
    by_cases moved : index = mover
    · subst moved
      exact moves.keeps (sound.keeps index)
    · rw [still index moved]
      exact (sound.keeps index).congr fun location held =>
        sound.node?_of_moves moves (aside mover) moved held
  case others =>
    intro location unheld
    by_cases released : before.Holds mover location
    · -- The mover has moved or removed its file, so the name is free again.
      have own := sound.own released
      rcases moves.temporary_or_free (sound.keeps mover) (aside mover) own.2
        released with held | free
      · exact absurd held (unheld mover)
      · exact Or.inl (free.trans own.1.symm)
    · have unheldBefore : ∀ index, ¬before.Holds index location := by
        intro index held
        by_cases moved : index = mover
        · exact released (moved ▸ held)
        · exact unheld index ((stays moved).mpr held)
      rcases moves.node?_eq_or_hasLanded (sound.keeps mover) released
        (unheld mover) with unchanged | landed
      · rw [unchanged]
        rcases sound.others unheldBefore with
          asBefore | ⟨index, landing, bytes, encoded, standing⟩
        · exact Or.inl asBefore
        · exact Or.inr
            ⟨index, landing, bytes, encoded, unchanged.trans standing⟩
      · exact Or.inr ⟨mover, sound.hasLanded landed⟩

/-- It holds at every moment. -/
theorem of_reaches (aside : ∀ index, IsAside (jobs index).path)
    (reaches : Reaches jobs files world) : Sound jobs files world := by
  induction reaches with
  | refl => exact .start jobs files
  | tail _ step ih => exact ih.step aside step

/-- A writing that has ended and still has a temporary file has a path with a
defect. -/
theorem hasEnded_or (sound : Sound jobs files world) {index : ι}
    {location : Location} (held : world.Holds index location) :
    (world.phases index).hasEnded = false ∨
      (jobs index).path.defect? ≠ none := by
  have keeps := sound.keeps index
  unfold Holds at held
  cases phase : world.phases index with
  | waiting | filling own rest | complete own | failing own => exact Or.inl rfl
  | stranded own =>
      rw [phase] at keeps
      exact Or.inr keeps.1
  | finished =>
      rw [phase] at held
      exact nomatch held

end Sound

/-- Nobody sees a part of a document under its path, or anything else that is
new, besides the temporary files. -/
structure Whole (jobs : ι → Job) (files : FileSystem) (world : World ι) :
    Prop where
  /-- A path that is aside of the temporary files leads to what it led to at
  the start, or to the whole document of a writing that lands there. -/
  paths : ∀ place path, IsAside path →
    (world.files.walk place path).toOption =
        (files.walk place path).toOption ∨
      ∃ index target bytes,
        files.landing (jobs index).place (jobs index).path = .ok target ∧
        encode (jobs index).table = .ok bytes ∧
        world.files.walk place path =
          .ok (.file target FileSystem.publicMode bytes)
  /-- Every location has what it had at the start, or a whole document that
  lands there, or is new and has the temporary file of a writing that goes on;
  only a path with a defect lets the writing end before its temporary file. -/
  locations : ∀ location,
    world.files.node? location = files.node? location ∨
      (∃ index, (jobs index).HasLanded files world.files location) ∨
      files.node? location = none ∧ IsTemporaryLocation location ∧
        ∃ index, world.Holds index location ∧
          ((world.phases index).hasEnded = false ∨
            (jobs index).path.defect? ≠ none)

namespace Sound

theorem whole (sound : Sound jobs files world) : Whole jobs files world where
  paths := by
    intro place path aside
    rcases sound.sameDirectories.walk_or place path with
      same | ⟨directory, name, last, entered, admitted, changed⟩
    · exact Or.inl same
    · have unheld : ∀ index, ¬world.Holds index (directory.child name) :=
        fun index held => aside name last
          (isTemporaryLocation_child_iff.mp (sound.own held).2)
      rcases sound.others unheld with
        unchanged | ⟨index, landing, bytes, encoded, standing⟩
      · exact absurd unchanged changed
      · have walked := FileSystem.walk_eq_file_iff.mpr
          ⟨directory, name, entered, last, admitted, rfl, standing⟩
        exact Or.inr ⟨index, _, bytes, landing, encoded, walked⟩
  locations := by
    intro location
    by_cases held : ∃ index, world.Holds index location
    · obtain ⟨index, held⟩ := held
      have own := sound.own held
      exact Or.inr (Or.inr
        ⟨own.1, own.2, index, held, sound.hasEnded_or held⟩)
    · rw [not_exists] at held
      exact (sound.others held).imp_right Or.inl

end Sound

/-- A writing may go on while all others stand still. -/
theorem steps_alone [DecidableEq ι] (jobs : ι → Job) (index : ι)
    (world : World ι) {last : Progress}
    (steps : Relation.ReflTransGen (jobs index).Step
      ⟨world.files, world.phases index⟩ last) :
    Relation.ReflTransGen (Step jobs) world
      ⟨last.files, Function.update world.phases index last.phase⟩ := by
  induction steps with
  | refl => rw [Function.update_eq_self]
  | tail _ step ih =>
      refine ih.tail ⟨index, ?_, fun other different => ?_⟩
      · simpa using step
      · simp [different]

/-- Whatever writings go on at the same time, and wherever they are stopped,
their paths lead to what they led to or to whole documents, and whatever else
is new is a temporary file of a writing that goes on. -/
theorem whole_of_reaches (aside : ∀ index, IsAside (jobs index).path)
    (reaches : Reaches jobs files world) : Whole jobs files world :=
  (Sound.of_reaches aside reaches).whole

/-- A working directory without files. -/
def sharedFiles : FileSystem := ⟨[(["scripts"], .directory)]⟩

/-- Two writings of different tables to the same path. -/
def rivalJobs : Bool → Job
  | false => ⟨⟨["scripts"], 0⟩, .empty, .ofText "types.json"⟩
  | true =>
      ⟨⟨["scripts"], 0⟩, .ofPairs [("A", .text "B")], .ofText "types.json"⟩

theorem isAside_typesJson : IsAside (.ofText "types.json") := by
  intro name last isTemporary
  have size := isTemporary.byteSize_eq
  cases last
  revert size
  decide

theorem encode_empty : encode .empty = .ok ("\x7b".toUTF8 ++ "\x7d".toUTF8) :=
  encode_eq_ok_iff.mpr ⟨by decide, by rfl⟩

/-- A temporary file can be created in the working directory. -/
theorem create_sharedFiles :
    sharedFiles.create .top (.ofText "/scripts") (temporaryName "00000000") =
      .ok (["scripts", ".tmp_00000000.json"],
        sharedFiles.put ["scripts", ".tmp_00000000.json"]
          (.file FileSystem.privateMode ByteArray.empty)) :=
  FileSystem.create_eq_ok_iff.mpr ⟨by decide, ⟨["scripts"], 0⟩, rfl,
    by unfold Place.Admits; decide, by decide, rfl, rfl⟩

/-- The working directory with the first half of the document of the empty
table. -/
def halfwayFiles : FileSystem :=
  ⟨[(["scripts"], .directory),
    (["scripts", ".tmp_00000000.json"],
      .file FileSystem.privateMode (ByteArray.empty ++ "\x7b".toUTF8))]⟩

/-- One of the rivals writes half of its document. -/
theorem steps_halfway :
    Relation.ReflTransGen (rivalJobs false).Step ⟨sharedFiles, .waiting⟩
      ⟨halfwayFiles,
        .filling ["scripts", ".tmp_00000000.json"] "\x7d".toUTF8⟩ := by
  have create : (rivalJobs false).Step _ _ := .create encode_empty (by decide)
    ⟨"00000000".toList, by decide, by decide, rfl⟩ create_sharedFiles
  exact (Relation.ReflTransGen.single create).tail (.append _ _)

/-- The first of the rivals has done so, and the other one waits. -/
def halfway : World Bool :=
  ⟨halfwayFiles, Function.update (fun _ => .waiting) false
    (.filling ["scripts", ".tmp_00000000.json"] "\x7d".toUTF8)⟩

/-- The other one can stage its document meanwhile. -/
theorem staged_halfway :
    Staged halfwayFiles ⟨["scripts"], 0⟩ (temporaryName "00000001")
      (rivalJobs true).table (.ofText "types.json")
      (document (rivalJobs true).table) (.ofText "/scripts")
      ["scripts", ".tmp_00000001.json"] :=
  ⟨encode_eq_ok_iff.mpr ⟨by decide, rfl⟩, by decide, _,
    FileSystem.create_eq_ok_iff.mpr ⟨by decide, ⟨["scripts"], 0⟩, rfl,
      by unfold Place.Admits; decide, by decide, rfl, rfl⟩⟩

/-- One of two rivals is stopped halfway, and the whole document of the other
one stands under their path. -/
theorem whole_of_reaches_rivals :
    ∃ world, Reaches rivalJobs sharedFiles world ∧
      world.Holds false ["scripts", ".tmp_00000000.json"] ∧
      world.files.read ⟨["scripts"], 0⟩ (.ofText "types.json") =
        .ok (document (rivalJobs true).table) ∧
      Whole rivalJobs sharedFiles world := by
  have landing : halfwayFiles.landing ⟨["scripts"], 0⟩ (.ofText "types.json") =
      .ok ["scripts", "types.json"] := by rfl
  have written := write_of_landing staged_halfway landing true
  obtain ⟨phase, _, steps⟩ := steps_write halfwayFiles (rivalJobs true)
    (temporaryName "00000001")
    ⟨"00000001".toList, by decide, by decide, rfl⟩
  have first : Reaches rivalJobs sharedFiles halfway :=
    steps_alone rivalJobs false (start sharedFiles) steps_halfway
  have second := steps_alone rivalJobs true halfway steps
  have aside : ∀ index, IsAside (rivalJobs index).path := by
    intro index
    cases index <;> exact isAside_typesJson
  refine ⟨_, first.trans second, ?_, ?_,
    whole_of_reaches aside (first.trans second)⟩
  · rfl
  · exact (congrArg (fun outcome : Outcome Nat =>
      outcome.files.read _ _) written).trans
        (FileSystem.read_put_of_landing landing _ _)

/-- A path without an encoding holds no NUL, and its temporary file stays after
the writing has ended. -/
theorem stranded_surrogate :
    let job : Job := ⟨⟨["scripts"], 0⟩, .empty, .ofText [.surrogate 0]⟩
    CodePoint.scalar '\x00' ∉ job.path.text ∧ IsAside job.path ∧
      ∃ world : World Unit, Reaches (fun _ => job) sharedFiles world ∧
        (world.phases ()).hasEnded = true ∧
        sharedFiles.node? ["scripts", ".tmp_00000000.json"] = none ∧
        world.files.node? ["scripts", ".tmp_00000000.json"] =
          some (.file FileSystem.publicMode
            ("\x7b".toUTF8 ++ "\x7d".toUTF8)) := by
  intro job
  have aside : IsAside job.path := by
    intro name last isTemporary
    have size := isTemporary.byteSize_eq
    cases last
    revert size
    decide
  obtain ⟨phase, ended, steps⟩ := steps_write sharedFiles job
    (temporaryName "00000000") ⟨"00000000".toList, by decide, by decide, rfl⟩
  have reaches := steps_alone (fun _ => job) () (start sharedFiles) steps
  refine ⟨by decide, aside, _, reaches, ?_, rfl, ?_⟩
  · simpa using ended
  · have staged : Staged sharedFiles ⟨["scripts"], 0⟩ _ _ job.path _ _ _ :=
      ⟨encode_empty, by decide, _, create_sharedFiles⟩
    have left : (write sharedFiles ⟨["scripts"], 0⟩ (temporaryName "00000000")
        true .empty job.path).files = sharedFiles.publish _ _ :=
      (congrArg Outcome.files (write_of_staged staged true)).trans (by rfl)
    exact (congrArg (FileSystem.node? · _) left).trans (by rfl)

end World

end TypesFile

end PalletTypes
