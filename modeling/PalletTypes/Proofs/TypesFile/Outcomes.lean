import PalletTypes.Proofs.TypesFile.Document
import PalletTypes.Proofs.TypesFile.Endings
import PalletTypes.Proofs.TypesFile.Staging
import PalletTypes.Proofs.TypesFile.Temporary

/-!
# What a writing leads to

A writing replaces its target, or it is refused with an error and changes
nothing, or it is abandoned because the path of the target cannot be handed to
the system.  An abandoned writing is no error of the types file, and it may
leave its temporary file behind.  `outcome_write` says that exactly one of the
three happens, and what each leaves.
-/

namespace PalletTypes

/-- The steps of a writing that can be refused. -/
inductive WritingStep where
  | serializing
  | creating
  | writing
deriving DecidableEq

namespace WritingStep

/-- The words of a refusal at the step. -/
def words : WritingStep → String
  | .serializing => "Cannot serialize types"
  | .creating => "Cannot create types file"
  | .writing => "Cannot write types file"

theorem eq_of_words_prefix {first second : WritingStep}
    (starts : first.words.toList <+: second.words.toList) :
    first = second := by
  revert starts
  cases first <;> cases second <;> decide

end WritingStep

namespace Reason

/-- The message of the reason begins with these words. -/
def Begins (reason : Reason) (words : String) : Prop :=
  words.toList <+: reason.message.toList

/-- The step of a writing that a reason is about. -/
def step? : Reason → Option WritingStep
  | .unserializable _ => some .serializing
  | .notCreated _ => some .creating
  | .notWritten _ => some .writing
  | _ => none

theorem prefix_append_details {words front : String}
    (starts : words.toList <+: front.toList) (details back : String) :
    words.toList <+: (front ++ details ++ back).toList := by
  rw [String.toList_append, String.toList_append, List.append_assoc]
  exact starts.trans (List.prefix_append _ _)

theorem begins_of_step? {reason : Reason} {step : WritingStep}
    (about : reason.step? = some step) : reason.Begins step.words := by
  cases reason with
  | unserializable defect =>
      cases about
      exact prefix_append_details (by decide) _ _
  | notCreated cause =>
      cases about
      exact prefix_append_details (by decide) _ _
  | notWritten cause =>
      cases about
      exact prefix_append_details (by decide) _ _
  | _ => exact nomatch about

/-- A reason about a step begins with the words of this step and of no
other. -/
theorem begins_words_iff {reason : Reason} {step : WritingStep}
    (about : reason.step? = some step) (other : WritingStep) :
    reason.Begins other.words ↔ other = step := by
  have own := begins_of_step? about
  constructor
  · intro begins
    rcases List.prefix_or_prefix_of_prefix begins own with starts | starts
    · exact WritingStep.eq_of_words_prefix starts
    · exact (WritingStep.eq_of_words_prefix starts).symm
  · rintro rfl
    exact own

end Reason

namespace TypesFile

/-- The temporary file of a writing can be created. -/
def CanStage (files : FileSystem) (place : Place) (temporary : Text)
    (path : Path) : Prop :=
  ∃ directory created, stagingDirectory? place path = some directory ∧
    files.create .top directory temporary = .ok created

/-- The path leads to a public file with the document of the table, and
everything else is as before. -/
def Replaced (files : FileSystem) (place : Place) (table : TypeTable)
    (path : Path) (after : FileSystem) (count : Nat) : Prop :=
  ∃ bytes target, encode table = .ok bytes ∧ bytes.size = count ∧
    after.walk place path = .ok (.file target FileSystem.publicMode bytes) ∧
    after.read place path = .ok bytes ∧
    ∀ other, other ≠ target → after.node? other = files.node? other

/-- The first step of a writing that is refused; serializing comes first,
whatever stands at the path. -/
def FailsAt (files : FileSystem) (place : Place) (temporary : Text)
    (table : TypeTable) (path : Path) : WritingStep → Prop
  | .serializing => ∃ defect, encode table = .error defect
  | .creating =>
      (∃ bytes, encode table = .ok bytes) ∧
        ¬CanStage files place temporary path
  | .writing =>
      (∃ bytes, encode table = .ok bytes) ∧
        CanStage files place temporary path

/-- The error is about the path, it has a cause and its reason tells the step
that failed; everything is as before. -/
structure Refused (files : FileSystem) (place : Place) (temporary : Text)
    (table : TypeTable) (path : Path) (after : FileSystem)
    (error : TypesError) : Prop where
  path_eq : error.path = path
  family_eq : error.reason.family = .write
  caused : error.reason.causeClass ≠ none
  unchanged : after = files
  begins_iff : ∀ step : WritingStep, error.reason.Begins step.words ↔
    FailsAt files place temporary table path step

/-- The path holds what the system does not take; at most the temporary file
is new, in the directory of the target. -/
structure Abandoned (files : FileSystem) (place : Place) (temporary : Text)
    (table : TypeTable) (path : Path) (after : FileSystem)
    (defect : PathDefect) : Prop where
  blamed : ∃ point ∈ path.text, defect.Blames point
  leftover : after = files ∨ ∃ bytes directory parent,
    encode table = .ok bytes ∧
    stagingDirectory? place path = some directory ∧
    files.enter .top directory = .ok parent ∧
    files.node? (parent.child temporary) = none ∧
    after = files.publish (parent.child temporary) bytes

section

variable {files : FileSystem} {place : Place} {temporary : Text}
  {table : TypeTable} {path : Path}

theorem canStage_of_staged {bytes : ByteArray} {directory : Path}
    {location : Location}
    (staged : Staged files place temporary table path bytes directory
      location) :
    CanStage files place temporary path := by
  obtain ⟨created, success⟩ := staged.created
  exact ⟨directory, _, staged.staging, success⟩

theorem failsAt_unique {first second : WritingStep}
    (fails : FailsAt files place temporary table path first)
    (failsToo : FailsAt files place temporary table path second) :
    first = second := by
  cases encoded : encode table with
  | error defect =>
      cases first <;> cases second <;> simp_all [FailsAt]
  | ok bytes =>
      cases first <;> cases second <;> simp_all [FailsAt]

theorem refused_of_failsAt {reason : Reason} {step : WritingStep}
    (about : reason.step? = some step)
    (fails : FailsAt files place temporary table path step) :
    Refused files place temporary table path files ⟨path, reason⟩ where
  path_eq := rfl
  family_eq := by
    cases reason <;> first | rfl | exact nomatch about
  caused := by
    cases reason <;> simp_all [Reason.causeClass, Reason.step?]
  unchanged := rfl
  begins_iff other := by
    rw [Reason.begins_words_iff about]
    constructor
    · rintro rfl
      exact fails
    · exact fun failsToo => failsAt_unique failsToo fails

theorem replaced_of_landing {bytes : ByteArray} {target : Location}
    (encoded : encode table = .ok bytes)
    (landing : files.landing place path = .ok target) :
    Replaced files place table path (files.publish target bytes)
      bytes.size := by
  have named := FileSystem.ne_nil_of_not_directory
    (FileSystem.not_directory_of_landing landing)
  unfold Replaced
  refine ⟨bytes, target, encoded, rfl,
    FileSystem.walk_put_of_landing landing _ bytes,
    FileSystem.read_put_of_landing landing _ bytes, ?_⟩
  intro other elsewhere
  rw [FileSystem.node?_publish named, if_neg (Ne.symm elsewhere)]

/-- Where the working directory can be named, what is unfit in the path of the
temporary file comes from the target. -/
theorem blamed_of_unnameable {directory : Path} {defect : PathDefect}
    (isTemporary : IsTemporaryName temporary) (nameable : place.IsNameable)
    (staging : stagingDirectory? place path = some directory)
    (refused : files.create .top directory temporary =
      .error (.defective defect)) :
    ∃ point ∈ path.text, defect.Blames point := by
  obtain ⟨point, inText, blamed⟩ :=
    Path.exists_blamed (FileSystem.create_eq_defective_iff.mp refused)
  have unfit := PathDefect.isUnfit_of_blames blamed
  obtain ⟨name, member, inName⟩ := (Path.mem_text_of_unfit unfit).mp inText
  obtain ⟨relative, names⟩ := Path.ofText_of_isName isTemporary.isName
  rw [Path.names_join relative, names, List.mem_append,
    List.mem_singleton] at member
  rcases member with inDirectory | rfl
  · rcases mem_names_of_staging staging inDirectory with inStart | inPath
    · have inPlace := startNames_subset place path.root inStart
      exact absurd unfit (nameable name inPlace point inName)
    · exact ⟨point, (Path.mem_text_of_unfit unfit).mpr ⟨name, inPath, inName⟩,
        blamed⟩
  · exact absurd unfit (isTemporary.not_isUnfit point inName)

theorem abandoned_of_stranded {bytes : ByteArray} {directory : Path}
    {location : Location} {defect : PathDefect}
    (staged : Staged files place temporary table path bytes directory location)
    (refused : (files.publish location bytes).landing place path =
      .error (.defective defect)) :
    Abandoned files place temporary table path (files.publish location bytes)
      defect := by
  obtain ⟨created, success⟩ := staged.created
  obtain ⟨_, parent, entered, _, rfl, free, _⟩ :=
    FileSystem.create_eq_ok_iff.mp success
  exact ⟨Path.exists_blamed (FileSystem.landing_eq_defective_iff.mp refused),
    Or.inr ⟨bytes, directory, parent, staged.encoded, staged.staging, entered,
      free, rfl⟩⟩

/-- A writing replaces its target, is refused without any change, or is
abandoned because the path cannot be handed to the system. -/
theorem outcome_write (files : FileSystem) (place : Place) (temporary : Text)
    (table : TypeTable) (path : Path)
    (isTemporary : IsTemporaryName temporary)
    (nameable : place.IsNameable) :
    let written := write files place temporary true table path
    match written.result with
    | .ok count => Replaced files place table path written.files count
    | .error (.types error) =>
        Refused files place temporary table path written.files error
    | .error (.defective defect) =>
        Abandoned files place temporary table path written.files defect
    | .error _ => False := by
  intro written
  have ending : Ending files place temporary true table path written :=
    ending_write files place temporary true table path
  clear_value written
  cases ending with
  | unserializable refused =>
      have fails : FailsAt files place temporary table path .serializing :=
        ⟨_, refused⟩
      exact refused_of_failsAt rfl fails
  | homeless encoded lost =>
      have unstaged : ¬CanStage files place temporary path := by
        rintro ⟨directory, created, staging, success⟩
        exact nomatch lost.symm.trans staging
      have fails : FailsAt files place temporary table path .creating :=
        ⟨⟨_, encoded⟩, unstaged⟩
      exact refused_of_failsAt rfl fails
  | notCreated encoded staging refused =>
      have unstaged : ¬CanStage files place temporary path := by
        rintro ⟨other, created, stagingAgain, success⟩
        cases staging.symm.trans stagingAgain
        exact nomatch refused.symm.trans success
      have fails : FailsAt files place temporary table path .creating :=
        ⟨⟨_, encoded⟩, unstaged⟩
      exact refused_of_failsAt rfl fails
  | unnameable encoded staging refused =>
      exact ⟨blamed_of_unnameable isTemporary nameable staging refused,
        Or.inl rfl⟩
  | undone staged refused removed =>
      have fails : FailsAt files place temporary table path .writing :=
        ⟨⟨_, staged.encoded⟩, canStage_of_staged staged⟩
      exact refused_of_failsAt rfl fails
  | leftover staged refused kept => exact nomatch kept
  | stranded staged refused => exact abandoned_of_stranded staged refused
  | landed staged landing => exact replaced_of_landing staged.encoded landing

end

/-- A working directory in which a directory has the name of the target. -/
def occupiedFiles : FileSystem :=
  ⟨[(["scripts"], .directory), (["scripts", "types.json"], .directory)]⟩

/-- The document of the empty table is staged in the working directory. -/
theorem staged_occupied {path : Path}
    (staging : stagingDirectory? ⟨["scripts"], 0⟩ path =
      some (.ofText "/scripts")) :
    Staged occupiedFiles ⟨["scripts"], 0⟩ (temporaryName "00000000") .empty
      path (document .empty) (.ofText "/scripts")
      ["scripts", ".tmp_00000000.json"] :=
  ⟨encode_eq_ok_iff.mpr ⟨by decide, rfl⟩, staging, _,
    FileSystem.create_eq_ok_iff.mpr ⟨by decide, ⟨["scripts"], 0⟩, rfl,
      by unfold Place.Admits; decide, by decide, rfl, rfl⟩⟩

/-- Nothing replaces a directory, and the temporary file goes again. -/
theorem outcome_write_occupied :
    ∃ error,
      (write occupiedFiles ⟨["scripts"], 0⟩ (temporaryName "00000000") true
        .empty (.ofText "types.json")).result = .error (.types error) ∧
      error.reason.Begins "Cannot write types file" ∧
      (write occupiedFiles ⟨["scripts"], 0⟩ (temporaryName "00000000") true
        .empty (.ofText "types.json")).files = occupiedFiles := by
  have staged := staged_occupied (show stagingDirectory? ⟨["scripts"], 0⟩
    (.ofText "types.json") = some (.ofText "/scripts") by decide)
  have refused : (write occupiedFiles ⟨["scripts"], 0⟩
      (temporaryName "00000000") true .empty (.ofText "types.json")).result =
        .error (.types ⟨.ofText "types.json", .notWritten .isDirectory⟩) := by
    rw [write_of_staged staged]
    rfl
  have outcome := outcome_write occupiedFiles ⟨["scripts"], 0⟩
    (temporaryName "00000000") .empty (.ofText "types.json")
    ⟨"00000000".toList, by decide, by decide, rfl⟩
    (by unfold Place.IsNameable CodePoint.IsUnfit; decide)
  simp only [refused] at outcome
  exact ⟨_, refused, (outcome.begins_iff .writing).mpr
    ⟨⟨_, staged.encoded⟩, canStage_of_staged staged⟩, outcome.unchanged⟩

/-- A target without an encoding holds no NUL, and a writing to it is neither
done nor refused; its temporary file stays behind. -/
theorem abandoned_surrogate :
    let path := Path.ofText [.surrogate 0]
    let written := write occupiedFiles ⟨["scripts"], 0⟩
      (temporaryName "00000000") true .empty path
    CodePoint.scalar '\x00' ∉ path.text ∧
      (∃ run, written.result = .error (.defective (.unencodable run))) ∧
      occupiedFiles.node? ["scripts", ".tmp_00000000.json"] = none ∧
      written.files = occupiedFiles.publish
        ["scripts", ".tmp_00000000.json"] (document .empty) := by
  intro path written
  have staged : Staged occupiedFiles ⟨["scripts"], 0⟩ _ _ path _ _ _ :=
    staged_occupied (by decide)
  have settled := write_of_staged staged true
  refine ⟨by decide, ⟨⟨.surrogate 0, 0, 1⟩, ?_⟩, rfl, ?_⟩
  · exact (congrArg Outcome.result settled).trans (by rfl)
  · exact (congrArg Outcome.files settled).trans (by rfl)

end TypesFile

end PalletTypes
