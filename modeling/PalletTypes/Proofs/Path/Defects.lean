import PalletTypes.FileError
import PalletTypes.Settings

/-!
# Which paths can be handed to the system

A path has a defect if one of its names holds a code point that the system
cannot take: the one that ends a path, or a surrogate that stands for no byte.
A path that goes on from a defective one is defective as well.
-/

namespace PalletTypes

/-- A code point that no path may hold on its way to the system. -/
def CodePoint.IsUnfit (point : CodePoint) : Prop :=
  point = .scalar '\x00' ∨ point.isSurrogate = true ∧ point.rawByte? = none

/-- The code point is one that the defect complains about. -/
def PathDefect.Blames : PathDefect → CodePoint → Prop
  | .nul, point => point = .scalar '\x00'
  | .unencodable _, point =>
      point.isSurrogate = true ∧ point.rawByte? = none

theorem PathDefect.isUnfit_of_blames {defect : PathDefect}
    {point : CodePoint} (blamed : defect.Blames point) : point.IsUnfit := by
  cases defect with
  | nul => exact Or.inl blamed
  | unencodable run => exact Or.inr blamed

namespace Text

theorem surrogatesFrom?_eq_none_iff {accepted : CodePoint → Bool}
    (position : Nat) {text : Text} :
    surrogatesFrom? accepted position text = none ↔
      ∀ point ∈ text, point.isSurrogate = true → accepted point = true := by
  induction text generalizing position with
  | nil => simp [surrogatesFrom?]
  | cons point rest ih =>
      by_cases blamed : (point.isSurrogate && !accepted point) = true
      · rw [surrogatesFrom?, if_pos blamed]
        rw [Bool.and_eq_true, Bool.not_eq_true'] at blamed
        simp [blamed]
      · rw [surrogatesFrom?, if_neg blamed, ih]
        rw [Bool.and_eq_true, Bool.not_eq_true', not_and,
          Bool.not_eq_false] at blamed
        simp only [List.mem_cons, forall_eq_or_imp]
        exact ⟨fun later => ⟨blamed, later⟩, And.right⟩

theorem unencodable?_eq_none_iff {name : Text} :
    unencodable? name = none ↔
      ∀ point ∈ name, ¬(point.isSurrogate = true ∧ point.rawByte? = none) := by
  simp [unencodable?, surrogatesFrom?_eq_none_iff, Option.isSome_iff_ne_none]

theorem mem_intercalate {point : CodePoint} {separator : Text}
    (foreign : point ∉ separator) {parts : List Text} :
    point ∈ List.intercalate separator parts ↔
      ∃ part ∈ parts, point ∈ part := by
  induction parts with
  | nil => simp
  | cons part rest ih =>
      cases rest with
      | nil => simp
      | cons next rest =>
          rw [List.intercalate_cons_cons, List.mem_append, List.mem_append, ih]
          simp [foreign]

end Text

namespace Path

/-- A defect is there because of some code point. -/
theorem exists_blamed {path : Path} {defect : PathDefect}
    (found : path.defect? = some defect) :
    ∃ point ∈ path.text, defect.Blames point := by
  unfold defect? at found
  split at found
  case h_1 run unencodable =>
    cases found
    have some_ne : path.text.unencodable? ≠ none := by simp [unencodable]
    rw [ne_eq, Text.unencodable?_eq_none_iff] at some_ne
    simpa [PathDefect.Blames] using some_ne
  case h_2 =>
    split at found
    case isTrue nul =>
      cases found
      exact ⟨_, nul, rfl⟩
    case isFalse => exact nomatch found

theorem defect?_eq_none_iff_text {path : Path} :
    path.defect? = none ↔ ∀ point ∈ path.text, ¬point.IsUnfit := by
  constructor
  · intro sound
    unfold defect? at sound
    split at sound
    case h_1 => exact nomatch sound
    case h_2 encodable =>
      rw [Text.unencodable?_eq_none_iff] at encodable
      split at sound
      case isTrue => exact nomatch sound
      case isFalse noNul =>
        rintro point member (rfl | standsForNothing)
        · exact noNul member
        · exact encodable point member standsForNothing
  · intro fits
    cases found : path.defect? with
    | none => rfl
    | some defect =>
        obtain ⟨point, member, blamed⟩ := exists_blamed found
        exact absurd (PathDefect.isUnfit_of_blames blamed) (fits point member)

theorem mem_text_of_unfit {path : Path} {point : CodePoint}
    (unfit : point.IsUnfit) :
    point ∈ path.text ↔ ∃ name ∈ path.names, point ∈ name := by
  have notSlash : point ≠ slash := by
    rintro rfl
    simp [CodePoint.IsUnfit, slash, CodePoint.isSurrogate] at unfit
  have notDot : point ≠ .scalar '.' := by
    rintro rfl
    simp [CodePoint.IsUnfit, CodePoint.isSurrogate] at unfit
  have inNames : point ∈ List.intercalate [slash] path.names ↔
      ∃ name ∈ path.names, point ∈ name :=
    Text.mem_intercalate (by simpa using notSlash)
  unfold text
  split <;> rename_i shape
  · simp [shape.2, notDot]
  · rw [List.mem_append, inNames]
    cases path.root <;> simp [PathRoot.text, notSlash]

/-- A path has no defect if none of its names holds anything unfit. -/
theorem defect?_eq_none_iff {path : Path} :
    path.defect? = none ↔
      ∀ name ∈ path.names, ∀ point ∈ name, ¬point.IsUnfit := by
  rw [defect?_eq_none_iff_text]
  constructor
  · intro fits name inPath point inName unfit
    exact fits point ((mem_text_of_unfit unfit).mpr ⟨name, inPath, inName⟩)
      unfit
  · intro fits point inText unfit
    obtain ⟨name, inPath, inName⟩ := (mem_text_of_unfit unfit).mp inText
    exact fits name inPath point inName unfit

/-- Going on along a relative path keeps every defect and adds those of the
relative path. -/
theorem defect?_join_eq_none_iff {base next : Path}
    (relative : next.root = .relative) :
    (base.join next).defect? = none ↔
      base.defect? = none ∧ next.defect? = none := by
  simp only [defect?_eq_none_iff, names_join relative, List.mem_append]
  constructor
  · exact fun fits =>
      ⟨fun name member => fits name (Or.inl member),
        fun name member => fits name (Or.inr member)⟩
  · rintro ⟨fitsBase, fitsNext⟩ name (member | member)
    · exact fitsBase name member
    · exact fitsNext name member

theorem refusal?_eq_none_iff {path : Path} :
    path.refusal? = none ↔ path.defect? = none ∧ path.isTooLong = false := by
  unfold refusal?
  cases path.defect? with
  | some defect => simp
  | none => by_cases long : path.isTooLong <;> simp [long]

theorem refusal?_eq_defective_iff {path : Path} {defect : PathDefect} :
    path.refusal? = some (.defective defect) ↔ path.defect? = some defect := by
  unfold refusal?
  cases path.defect? with
  | some other => simp
  | none => by_cases long : path.isTooLong <;> simp [long]

end Path

namespace Path

theorem root_ofText_cons {point : CodePoint} (notSlash : point ≠ slash)
    (rest : Text) : (ofText (point :: rest)).root = .relative := by
  simp [ofText, ofNames, rootOf, rootOfSlashes, notSlash]

end Path

namespace Settings

theorem root_palletTemplate (pallet : Text) :
    (Path.ofText ("../pallets/" ++ pallet ++ "/types.json")).root =
      .relative :=
  Path.root_ofText_cons (show CodePoint.scalar '.' ≠ slash by decide) _

theorem root_outputTemplate :
    (Path.ofText "../types.json").root = .relative :=
  Path.root_ofText_cons (show CodePoint.scalar '.' ≠ slash by decide) _

/-- A base directory with a defect spoils the types file of every pallet. -/
theorem defect?_palletPath_ne_none (settings : Settings)
    (spoiled : settings.baseDir.defect? ≠ none) (pallet : Text) :
    (settings.palletPath pallet).defect? ≠ none := by
  intro fits
  rw [palletPath, typesFile,
    Path.defect?_join_eq_none_iff (root_palletTemplate pallet)] at fits
  exact spoiled fits.1

theorem defect?_outputPath_eq_none_iff {settings : Settings} :
    settings.outputPath.defect? = none ↔
      settings.baseDir.defect? = none := by
  have template : (Path.ofText "../types.json").defect? = none := by
    decide
  rw [outputPath, mergedFile, Path.defect?_join_eq_none_iff root_outputTemplate]
  exact and_iff_left template

end Settings

end PalletTypes
