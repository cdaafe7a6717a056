import PalletTypes.Proofs.Json.DocumentOrder
import PalletTypes.Proofs.TypesFile.Outcomes

/-!
# What keeps a table from being serialized

A table is serialized unless a walk through it in document order meets a
defect, and the first one met is the reason that a writing gives.  Where the
table should go plays no part in this: serializing comes before any other step.
-/

namespace PalletTypes

namespace Json

theorem Defect.message_injective {left right : Defect}
    (same : left.message = right.message) : left = right := by
  cases left <;> cases right <;> first | rfl | exact absurd same (by decide)

end Json

namespace TypesFile

section

variable {table : TypeTable}

/-- The table itself is the container at level 1. -/
theorem encode_eq_error_iff {defect : Json.Defect} :
    encode table = .error defect ↔
      Json.MeetsFirst (Json.walk 1 table.toValue) defect := by
  rw [← Json.findSome?_eq_some_iff_meetsFirst,
    ← Json.defect?_eq_findSome?_walk table.toValue (Nat.zero_le _), encode_eq]
  cases Json.defect? 0 table.toValue <;> simp

theorem exists_encode_eq_ok_iff :
    (∃ bytes, encode table = .ok bytes) ↔
      ∀ encounter ∈ Json.walk 1 table.toValue,
        ∀ defect, ¬encounter.Has defect := by
  have found := Json.defect?_eq_findSome?_walk table.toValue (Nat.zero_le _)
  simp only [encode_eq_ok_iff, exists_and_left, exists_eq', and_true, found,
    List.findSome?_eq_none_iff, Json.Encounter.defect?_eq_none_iff]

variable {files : FileSystem} {place : Place} {temporary : Text}
  {removable : Bool} {path : Path} {error : TypesError}

theorem write_of_encode_error {defect : Json.Defect}
    (failed : encode table = .error defect) :
    (write files place temporary removable table path).result =
      .error (.types ⟨path, .unserializable defect⟩) := by
  rw [write, failed]
  rfl

/-- Every error of a writing is about one of its steps. -/
theorem exists_step_of_write
    (failed : (write files place temporary removable table path).result =
      .error (.types error)) :
    (∃ defect, encode table = .error defect ∧
        error = ⟨path, .unserializable defect⟩) ∨
      error.reason.step? = some .creating ∨
      error.reason.step? = some .writing := by
  have ending := ending_write files place temporary removable table path
  generalize write files place temporary removable table path = written
    at ending failed
  cases ending with
  | unserializable refused =>
      cases failed
      exact .inl ⟨_, refused, rfl⟩
  | homeless encoded lost =>
      cases failed
      exact .inr (.inl rfl)
  | notCreated encoded staging refused =>
      cases failed
      exact .inr (.inl rfl)
  | undone staged refused removed =>
      cases failed
      exact .inr (.inr rfl)
  | leftover staged refused kept =>
      cases failed
      exact .inr (.inr rfl)
  | unnameable encoded staging refused => exact nomatch failed
  | stranded staged refused => exact nomatch failed
  | landed staged landing => exact nomatch failed

/-- An error that begins with the words of serializing is one of
serializing. -/
theorem encode_of_begins
    (failed : (write files place temporary removable table path).result =
      .error (.types error))
    (begins : error.reason.Begins WritingStep.serializing.words) :
    ∃ defect, encode table = .error defect ∧
      error = ⟨path, .unserializable defect⟩ := by
  rcases exists_step_of_write failed with serializing | creating | writing
  · exact serializing
  · exact nomatch (Reason.begins_words_iff creating _).mp begins
  · exact nomatch (Reason.begins_words_iff writing _).mp begins

/-- A writing says that it cannot serialize the table if and only if a walk
through the table meets a defect, wherever the table should be written to.  It
names the defect that is met first, and a table without any is serialized,
whatever its numbers are. -/
theorem write_names_first (files : FileSystem) (place : Place)
    (temporary : Text) (removable : Bool) (table : TypeTable) (path : Path) :
    let encounters := Json.walk 1 table.toValue
    let result := (write files place temporary removable table path).result
    ((∃ error, result = .error (.types error) ∧
        error.reason.Begins "Cannot serialize types") ↔
      ∃ encounter ∈ encounters, ∃ defect, encounter.Has defect) ∧
    (∀ defect : Json.Defect,
      (∃ error, result = .error (.types error) ∧ error.path = path ∧
        error.reason.message =
          "Cannot serialize types (" ++ defect.message ++ ")") ↔
      Json.MeetsFirst encounters defect) ∧
    ((∃ bytes, encode table = .ok bytes) ↔
      ∀ encounter ∈ encounters, ∀ defect, ¬encounter.Has defect) := by
  intro encounters result
  refine ⟨⟨?_, ?_⟩, fun defect => ⟨?_, ?_⟩, exists_encode_eq_ok_iff⟩
  · rintro ⟨error, failed, begins⟩
    obtain ⟨defect, refused, -⟩ := encode_of_begins failed begins
    obtain ⟨before, encounter, after, parts, has, -⟩ :=
      encode_eq_error_iff.mp refused
    have member : encounter ∈ encounters := by
      rw [show encounters = before ++ encounter :: after from parts]
      simp
    exact ⟨encounter, member, defect, has⟩
  · rintro ⟨encounter, member, defect, has⟩
    cases encoded : encode table with
    | ok bytes =>
        exact absurd has
          (exists_encode_eq_ok_iff.mp ⟨bytes, encoded⟩ encounter member defect)
    | error first =>
        have about : (Reason.unserializable first).step? =
            some .serializing := rfl
        exact ⟨_, write_of_encode_error encoded,
          Reason.begins_of_step? about⟩
  · rintro ⟨error, failed, -, message⟩
    have begins : error.reason.Begins WritingStep.serializing.words := by
      rw [Reason.Begins, message]
      exact Reason.prefix_append_details (by decide) _ _
    obtain ⟨first, refused, rfl⟩ := encode_of_begins failed begins
    have same : first = defect := by
      apply Json.Defect.message_injective
      exact (String.append_right_inj _).mp
        ((String.append_left_inj _).mp message)
    exact encode_eq_error_iff.mp (same ▸ refused)
  · intro meets
    exact ⟨_, write_of_encode_error (encode_eq_error_iff.mpr meets), rfl, rfl⟩

end

end TypesFile

end PalletTypes
