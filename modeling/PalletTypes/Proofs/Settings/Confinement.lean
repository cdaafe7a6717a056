import PalletTypes.Proofs.FileSystem.Targets
import PalletTypes.Proofs.Path.Names
import PalletTypes.Proofs.Path.Templates
import PalletTypes.Settings.Validation

/-!
# Pallets that validation accepts

Validation accepts a pallet name without a separator, and such a name is one
name of a path, so its types file stands in the directory of this name among
the pallets.  Two names are accepted that are no names of a directory of their
own: `.` denotes the directory of all pallets and `..` the one above it, which
is the directory of the output.
-/

namespace PalletTypes.Settings

/-- The directory of all pallets. -/
def palletsPath (settings : Settings) : Path :=
  settings.baseDir.join (.ofText "../pallets")

/-- The name of a directory that is where the directory itself is. -/
def current : Text := [.scalar '.']

theorem current_ne_upward : current ≠ upward := by decide

section

variable {settings : Settings} {files : FileSystem} {place : Place}

theorem root_palletsPath (settings : Settings) :
    settings.palletsPath.root = settings.baseDir.root :=
  Path.root_join (by decide)

theorem names_palletsPath (settings : Settings) :
    settings.palletsPath.names =
      settings.baseDir.names ++ [upward, palletsName] := by
  have template : (Path.ofText "../pallets").names =
      [upward, palletsName] := by decide
  rw [palletsPath, Path.names_join (by decide), template]

theorem descend_fileName (location : Location) :
    Path.descend location fileName = location ++ [fileName] := by
  have shown : fileName.shownName = fileName := by decide
  rw [Path.descend, if_neg (by decide), shown]

theorem target_palletsPath (settings : Settings) (place : Place) :
    settings.palletsPath.target place =
      settings.outputPath.parent.target place ++ [palletsName] := by
  have sameRoot : settings.palletsPath.root =
      settings.outputPath.parent.root :=
    (root_palletsPath settings).trans (root_outputPath settings).symm
  have split : settings.palletsPath.names =
      settings.outputPath.parent.names ++ [palletsName] := by
    rw [names_palletsPath, names_parent_outputPath, List.append_assoc]
    rfl
  have shown : palletsName.shownName = palletsName := by decide
  rw [Path.target_append place sameRoot split, List.foldl_cons,
    List.foldl_nil, Path.descend, if_neg (by decide), shown]

theorem target_outputPath (settings : Settings) (place : Place) :
    settings.outputPath.target place =
      settings.outputPath.parent.target place ++ [fileName] := by
  have split : settings.outputPath.names =
      settings.outputPath.parent.names ++ [fileName] := by
    rw [names_outputPath, names_parent_outputPath, List.append_assoc]
    rfl
  rw [Path.target_append place (by rfl) split, List.foldl_cons,
    List.foldl_nil, descend_fileName]

/-- Beyond the directory of all pallets the names of the pallet lead to its
types file. -/
theorem target_palletPath (settings : Settings) (pallet : Text)
    (place : Place) :
    (settings.palletPath pallet).target place =
      (Path.ofText pallet).names.foldl Path.descend
        (settings.palletsPath.target place) ++ [fileName] := by
  have sameRoot : (settings.palletPath pallet).root =
      settings.palletsPath.root :=
    (root_palletPath settings pallet).trans (root_palletsPath settings).symm
  have split : (settings.palletPath pallet).names =
      settings.palletsPath.names ++
        ((Path.ofText pallet).names ++ [fileName]) := by
    rw [names_palletPath, names_palletsPath]
    simp
  rw [Path.target_append place sameRoot split, List.foldl_append,
    List.foldl_cons, List.foldl_nil, descend_fileName]

/-! ## Accepted names -/

theorem nameError?_of_validate {validation : Validation} {pallet : Text}
    (validated : settings.validate files place = .ok validation)
    (fine : validation.errors = []) (listed : pallet ∈ settings.pallets) :
    Validation.nameError? pallet = none := by
  unfold validate at validated
  simp only at validated
  split at validated
  case h_1 => exact nomatch validated
  case h_2 isDirectory _ =>
    cases validated
    have nonempty : settings.pallets ≠ [] := List.ne_nil_of_mem listed
    rw [Validation.palletErrors, if_neg nonempty,
      List.filterMap_eq_nil_iff] at fine
    exact fine pallet listed

/-- An accepted name is one name of a path, or none if it is `.`. -/
theorem names_of_nameError? {pallet : Text}
    (accepted : Validation.nameError? pallet = none) :
    (Path.ofText pallet).names =
      if pallet = current then [] else [pallet] := by
  unfold Validation.nameError? at accepted
  split at accepted
  case isTrue => exact nomatch accepted
  case isFalse notBlank =>
    split at accepted
    case isTrue => exact nomatch accepted
    case isFalse noSeparator =>
      have nonempty : pallet ≠ [] := by
        rintro rfl
        exact notBlank rfl
      have noSlash : slash ∉ pallet := by
        intro member
        apply noSeparator
        exact List.any_eq_true.mpr ⟨slash, member, by decide⟩
      rw [Path.ofText, Path.ofNames, Path.segments_of_no_slash noSlash]
      by_cases isCurrent : pallet = current
      · simp [isCurrent, current, IsName]
      · have notDot : pallet ≠ [.scalar '.'] := isCurrent
        simp [isCurrent, IsName, nonempty, noSlash, notDot]

/-- What the path of an accepted name denotes. -/
theorem target_cases (settings : Settings) (place : Place) {pallet : Text}
    (accepted : Validation.nameError? pallet = none) :
    (pallet = upward ∧
      (settings.palletPath pallet).target place =
        settings.outputPath.parent.target place ++ [fileName]) ∨
    (pallet = current ∧
      (settings.palletPath pallet).target place =
        settings.outputPath.parent.target place ++ [palletsName, fileName]) ∨
    ((pallet ≠ current ∧ pallet ≠ upward) ∧
      (settings.palletPath pallet).target place =
        settings.outputPath.parent.target place ++
          [palletsName, pallet.shownName, fileName]) := by
  rw [target_palletPath, names_of_nameError? accepted, target_palletsPath]
  by_cases isUpward : pallet = upward
  · refine Or.inl ⟨isUpward, ?_⟩
    simp [isUpward, Ne.symm current_ne_upward, Path.descend]
  · refine Or.inr ?_
    by_cases isCurrent : pallet = current
    · refine Or.inl ⟨isCurrent, ?_⟩
      simp [isCurrent]
    · refine Or.inr ⟨⟨isCurrent, isUpward⟩, ?_⟩
      simp [isUpward, isCurrent, Path.descend]

theorem target_eq_own_iff {pallet : Text}
    (accepted : Validation.nameError? pallet = none) :
    (settings.palletPath pallet).target place =
        settings.palletsPath.target place ++ [pallet.shownName, fileName] ↔
      pallet ≠ current ∧ pallet ≠ upward := by
  rw [target_palletsPath]
  rcases target_cases settings place accepted with
    ⟨rfl, target⟩ | ⟨rfl, target⟩ | ⟨own, target⟩
  · simp [target]
  · simp [target]
  · simp [target, own]

theorem target_eq_output_iff {pallet : Text}
    (accepted : Validation.nameError? pallet = none) :
    (settings.palletPath pallet).target place =
        settings.outputPath.target place ↔ pallet = upward := by
  rw [target_outputPath]
  rcases target_cases settings place accepted with
    ⟨rfl, target⟩ | ⟨rfl, target⟩ | ⟨own, target⟩
  · simp [target]
  · simp [target, current_ne_upward]
  · simp [target, own.2]

/-- Names with the same target are the same to the system: targets of names of
different kinds have different lengths. -/
theorem shownName_eq_of_target_eq {first second : Text}
    (firstAccepted : Validation.nameError? first = none)
    (secondAccepted : Validation.nameError? second = none)
    (same : (settings.palletPath first).target place =
      (settings.palletPath second).target place) :
    first.shownName = second.shownName := by
  rcases target_cases settings place firstAccepted with
      ⟨firstUp, target⟩ | ⟨firstHere, target⟩ | ⟨_, target⟩ <;>
    rcases target_cases settings place secondAccepted with
      ⟨secondUp, targetToo⟩ | ⟨secondHere, targetToo⟩ | ⟨_, targetToo⟩ <;>
    rw [target, targetToo, List.append_cancel_left_eq] at same <;>
    simp_all

/-- An accepted name denotes the types file in the directory of this name
among the pallets, unless it is one of the two names that denote no directory
of their own; of these `..` denotes the output.  A reading takes what stands there, and
names that denote the same are the same to the system. -/
theorem target_of_validate {validation : Validation}
    (validated : settings.validate files place = .ok validation)
    (fine : validation.errors = []) :
    (∀ pallet ∈ settings.pallets,
      ((settings.palletPath pallet).target place =
          settings.palletsPath.target place ++ [pallet.shownName, fileName] ↔
        pallet ≠ current ∧ pallet ≠ upward) ∧
      ((settings.palletPath pallet).target place =
          settings.outputPath.target place ↔ pallet = upward) ∧
      ∀ content, files.read place (settings.palletPath pallet) = .ok content →
        ∃ mode, files.node? ((settings.palletPath pallet).target place) =
          some (.file mode content)) ∧
    ∀ first ∈ settings.pallets, ∀ second ∈ settings.pallets,
      (settings.palletPath first).target place =
          (settings.palletPath second).target place →
        first.shownName = second.shownName ∧
          (first.IsScalar → second.IsScalar → first = second) := by
  have accepted : ∀ pallet ∈ settings.pallets,
      Validation.nameError? pallet = none := fun _ listed =>
    nameError?_of_validate validated fine listed
  constructor
  · intro pallet listed
    exact ⟨target_eq_own_iff (accepted pallet listed),
      target_eq_output_iff (accepted pallet listed),
      fun content => FileSystem.node?_target_of_read⟩
  · intro first firstListed second secondListed same
    have shown := shownName_eq_of_target_eq (accepted first firstListed)
      (accepted second secondListed) same
    refine ⟨shown, fun firstScalar secondScalar => ?_⟩
    rwa [Text.shownName_of_isScalar firstScalar,
      Text.shownName_of_isScalar secondScalar] at shown

end

/-- Pallets that validation accepts, one of them the name of the directory
above all pallets. -/
def escaping : Settings :=
  { baseDir := .ofText ""
    pallets := ["posts", ".."]
    runtimeTypes := Settings.defaultRuntimeTypes
    customTypes := Settings.defaultCustomTypes
    logging := {} }

def escapingFiles : FileSystem :=
  ⟨[(["scripts"], .directory), (["pallets"], .directory),
    (["pallets", "posts"], .directory),
    (["pallets", "posts", "types.json"],
      .file FileSystem.publicMode "\x7b\x7d".toUTF8),
    (["types.json"],
      .file FileSystem.publicMode "\x7b\"X\":1\x7d".toUTF8)]⟩

theorem target_of_validate_escaping :
    ∃ validation, escaping.validate escapingFiles ⟨["scripts"], 0⟩ =
        .ok validation ∧ validation.errors = [] ∧
      (escaping.palletPath "posts").target ⟨["scripts"], 0⟩ =
        escaping.palletsPath.target ⟨["scripts"], 0⟩ ++
          [("posts" : Text).shownName, fileName] ∧
      (escaping.palletPath "..").target ⟨["scripts"], 0⟩ =
        escaping.outputPath.target ⟨["scripts"], 0⟩ := by
  have validated : ∃ validation,
      escaping.validate escapingFiles ⟨["scripts"], 0⟩ = .ok validation ∧
        validation.errors = [] := ⟨_, by rfl, by rfl⟩
  obtain ⟨validation, validated, fine⟩ := validated
  obtain ⟨denotes, _⟩ := target_of_validate validated fine
  refine ⟨validation, validated, fine, ?_, ?_⟩
  · exact (denotes "posts" (by decide)).1.mpr (by decide)
  · exact (denotes ".." (by decide)).2.1.mpr (by decide)

/-- Validation accepts a name under which the output is read. -/
theorem not_confined_escaping :
    (∃ validation, escaping.validate escapingFiles ⟨["scripts"], 0⟩ =
        .ok validation ∧ validation.errors = []) ∧
      (Text.ofString "..") ∈ escaping.pallets ∧
      (escaping.palletPath "..").target ⟨["scripts"], 0⟩ =
        escaping.outputPath.target ⟨["scripts"], 0⟩ ∧
      ∃ content, content = "\x7b\"X\":1\x7d".toUTF8 ∧
        escapingFiles.read ⟨["scripts"], 0⟩ escaping.outputPath =
          .ok content ∧
        escapingFiles.read ⟨["scripts"], 0⟩ (escaping.palletPath "..") =
          .ok content :=
  ⟨⟨_, by rfl, by rfl⟩, by decide, by decide, _, rfl, by rfl, by rfl⟩

end PalletTypes.Settings
