import PalletTypes.Proofs.Aggregation.PathLimit
import PalletTypes.Proofs.Aggregation.Success
import PalletTypes.Proofs.Value.Expressible

/-!
# What a run needs of the file system

Where the settings themselves give no cause to fail, a run fails because of
what stands in the file system: a pallet that cannot be read, a merged table
that is nested too deeply to be written, or a directory in the place of the
output.  The failure then blames the first pallet that cannot be read, or the
output.
-/

namespace PalletTypes

/-- The settings have paths that do not depend on the working directory and
that the system takes, and seeds that a file can hold. -/
structure Settings.IsSound (settings : Settings) : Prop where
  rooted : settings.baseDir.root ≠ .relative
  fits : settings.baseDir.defect? = none
  palletsFit : ∀ pallet ∈ settings.pallets,
    (Path.ofText pallet).defect? = none
  nonempty : settings.pallets ≠ []
  runtime : settings.runtimeTypes.isStorable = true
  custom : settings.customTypes.isStorable = true

theorem TypesFile.exists_encode_iff {table : TypeTable}
    (storable : table.isStorable = true) :
    (∃ bytes, encode table = .ok bytes) ↔ table.toValue.nesting ≤ 254 := by
  have expressible := TypeTable.isExpressible_of_isStorable storable
  simp only [encode_eq_ok_iff, exists_and_left, exists_eq', and_true,
    TypeTable.defect?_of_isExpressible expressible,
    Json.nestingDefect?_eq_none_iff]
  rfl

namespace Aggregation

/-- Every pallet can be read, the merged table is not nested too deeply, and
no directory stands in the place of the output. -/
structure Ready (settings : Settings) (files : FileSystem)
    (place : Place) : Prop where
  readable : ∀ pallet ∈ settings.pallets,
    IsReadable settings files place pallet
  shallow : ∀ table, (collect settings files place).2 = .ok table →
    table.toValue.nesting ≤ 254
  vacant : files.isDirectory place settings.outputPath ≠ .ok true

/-- The path that a run which is not ready blames. -/
inductive Blames (settings : Settings) (files : FileSystem)
    (place : Place) : Path → Prop where
  /-- The first pallet that cannot be read is to blame. -/
  | pallet {before after : List Text} {pallet : Text}
      (listed : settings.pallets = before ++ pallet :: after)
      (readable : ∀ earlier ∈ before,
        IsReadable settings files place earlier)
      (unreadable : ¬IsReadable settings files place pallet) :
      Blames settings files place (settings.palletPath pallet)
  /-- All pallets can be read, so the output is to blame. -/
  | output (readable : ∀ pallet ∈ settings.pallets,
        IsReadable settings files place pallet) :
      Blames settings files place settings.outputPath

section

variable {settings : Settings} {files : FileSystem} {place : Place}
  {temporary : Text}

/-- All that sound settings collect can be held by a file. -/
theorem isStorable_of_collect {table : TypeTable} (sound : settings.IsSound)
    (collected : (collect settings files place).2 = .ok table) :
    table.isStorable = true := by
  obtain ⟨loaded, loading, rfl⟩ := collect_eq_ok_iff.mp collected
  exact Merge.isStorable_addAll
    (forall_mem_sources (fun table => table.isStorable = true) sound.runtime
      sound.custom TypesFile.isStorable_of_load loading)

/-- A collection that fails blames the first pallet that cannot be read. -/
theorem blames_of_collect {failure : Failure} (sound : settings.IsSound)
    (failed : (collect settings files place).2 = .error failure) :
    ¬Ready settings files place ∧
      ∃ error, failure = .types error ∧
        Blames settings files place error.path := by
  obtain ⟨before, pallet, after, listed, readable, refused⟩ :=
    loadAll_failure (collect_eq_error_iff.mp failed)
  have unreadable : ¬IsReadable settings files place pallet := by
    rintro ⟨table, loaded⟩
    exact nomatch refused.symm.trans loaded
  have member : pallet ∈ settings.pallets := by simp [listed]
  have fits : (settings.palletPath pallet).defect? = none :=
    Settings.defect?_palletPath_eq_none_iff.mpr
      ⟨sound.fits, sound.palletsFit pallet member⟩
  refine ⟨fun ready => unreadable (ready.readable pallet member), ?_⟩
  rcases TypesFile.load_failure refused with ⟨reason, rfl⟩ |
    ⟨defect, spoiled, _⟩
  · exact ⟨_, rfl, .pallet listed readable unreadable⟩
  · exact nomatch fits.symm.trans spoiled

/-- A run with sound settings that has collected its table ends as the table
and the output allow. -/
theorem result_of_sound {table : TypeTable} (sound : settings.IsSound)
    (pick : TypesFile.MayPick files place settings.outputPath temporary)
    (collected : (collect settings files place).2 = .ok table) :
    (aggregate settings files place temporary).result =
      match TypesFile.encode table,
        files.isDirectory place settings.outputPath with
      | .error defect, _ =>
          .error (.types ⟨settings.outputPath, .unserializable defect⟩)
      | .ok _, .ok true =>
          .error (.types ⟨settings.outputPath, .notWritten .isDirectory⟩)
      | .ok _, _ => .ok settings.outputPath := by
  obtain ⟨pallet, listed⟩ := List.exists_mem_of_ne_nil _ sound.nonempty
  have readable := isReadable_of_collect collected pallet listed
  have accepted := refusal?_palletPath_of_isReadable readable
  have short := (Path.refusal?_eq_none_iff.mp accepted).2
  have start : TypesFile.HasStart files place settings.outputPath := by
    intro relative
    rw [Settings.root_outputPath] at relative
    exact absurd relative sound.rooted
  obtain ⟨parent, opens⟩ :=
    exists_outputDirectory readable start (isTooLong_outputPath short)
  exact result_of_collect opens start pick
    (fun directory staging =>
      isTooLong_temporary sound.rooted short pick.isTemporary staging)
    collected

/-- A run with sound settings succeeds if it is ready; otherwise it fails and
blames the first pallet that cannot be read, or its output. -/
theorem result_cases (sound : settings.IsSound)
    (pick : TypesFile.MayPick files place settings.outputPath temporary) :
    Ready settings files place ∧
        (aggregate settings files place temporary).result =
          .ok settings.outputPath ∨
      ¬Ready settings files place ∧ ∃ error,
        (aggregate settings files place temporary).result =
          .error (.types error) ∧
        Blames settings files place error.path := by
  cases collected : (collect settings files place).2 with
  | error failure =>
      obtain ⟨notReady, error, rfl, blames⟩ := blames_of_collect sound collected
      refine Or.inr ⟨notReady, error, ?_, blames⟩
      rw [result_aggregate, collected]
  | ok table =>
      have readable := isReadable_of_collect collected
      have result := result_of_sound sound pick collected
      have encodes := TypesFile.exists_encode_iff
        (isStorable_of_collect sound collected)
      cases encoded : TypesFile.encode table with
      | error defect =>
          simp only [encoded] at result
          refine Or.inr ⟨fun ready => ?_, _, result, .output readable⟩
          obtain ⟨bytes, success⟩ :=
            encodes.mpr (ready.shallow table collected)
          exact nomatch encoded.symm.trans success
      | ok bytes =>
          have shallow : ∀ other, (collect settings files place).2 = .ok other →
              other.toValue.nesting ≤ 254 := by
            intro other again
            cases collected.symm.trans again
            exact encodes.mp ⟨bytes, encoded⟩
          by_cases occupied :
              files.isDirectory place settings.outputPath = .ok true
          · simp only [encoded, occupied] at result
            exact Or.inr ⟨fun ready => ready.vacant occupied, _, result,
              .output readable⟩
          · refine Or.inl ⟨⟨readable, shallow, occupied⟩, ?_⟩
            rw [result, encoded]
            split <;> simp_all

end

end Aggregation

end PalletTypes
