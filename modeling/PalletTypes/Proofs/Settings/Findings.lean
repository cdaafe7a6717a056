import Mathlib.Data.List.TakeWhile
import PalletTypes.FileSystem
import PalletTypes.Proofs.Occurrences
import PalletTypes.Settings.Validation

/-!
# What validation finds

Validation complains about every pallet name that is blank or holds a
separator, in the order of the list, and warns about every repetition of a
name, be the name acceptable or not.  Which names it has seen is told by what
stands before a position, so the findings can be counted, and another order of
the pallets only changes their order.
-/

namespace PalletTypes

namespace Text

/-- A text without the blanks around it. -/
def stripped (text : Text) : Text :=
  ((text.dropWhile isBlankPoint).reverse.dropWhile isBlankPoint).reverse

/-- Nothing is left of a blank text, and of no other. -/
theorem stripped_eq_nil_iff {text : Text} :
    text.stripped = [] ↔ text.isBlank = true := by
  rw [stripped, List.reverse_eq_nil_iff, List.dropWhile_eq_nil_iff, isBlank,
    List.all_eq_true]
  simp only [List.mem_reverse]
  constructor
  · intro blankRest point member
    -- What is dropped in front is blank, and so is the rest.
    rw [← List.takeWhile_append_dropWhile (p := isBlankPoint) (l := text),
      List.mem_append] at member
    rcases member with inFront | inRest
    · exact List.mem_takeWhile_imp inFront
    · exact blankRest point inRest
  · intro blank point member
    exact blank point (List.dropWhile_subset _ member)

end Text

namespace FileSystem

/-- The system takes the path, and it leads to a directory. -/
def LeadsToDirectory (files : FileSystem) (place : Place) (path : Path) :
    Prop :=
  path.refusal? = none ∧ ∃ directory, files.enter place path = .ok directory

theorem isDirectory_iff {files : FileSystem} {place : Place} {path : Path}
    {answer : Bool} (answered : files.isDirectory place path = .ok answer) :
    answer = true ↔ files.LeadsToDirectory place path := by
  unfold isDirectory probe at answered
  unfold LeadsToDirectory enter
  cases refusal : path.refusal? with
  | some error =>
      cases error with
      | defective defect => simp_all
      | refused cause => simp [refusal] at answered
  | none =>
      simp only [refusal] at answered
      cases walked : files.walk place path with
      | ok spot => cases spot <;> simp_all
      | error cause => cases cause <;> simp_all

end FileSystem

namespace Validation

/-- A name that names one directory: it is not blank and has no separator. -/
def IsAcceptable (name : Text) : Prop :=
  name.stripped ≠ [] ∧ CodePoint.scalar '/' ∉ name ∧
    CodePoint.scalar '\\' ∉ name

instance (name : Text) : Decidable (IsAcceptable name) :=
  inferInstanceAs (Decidable (_ ∧ _ ∧ _))

/-- What is said about a name that is not acceptable. -/
def complaint (name : Text) : Text :=
  if name.stripped = [] then "Pallet name must not be blank"
  else "Pallet name must not contain path separators: " ++ name

/-- What is said about a name that stands at an earlier position. -/
def repetitionWarning (name : Text) : Text :=
  "Pallet listed more than once: " ++ name

/-- The warnings about repetitions, one for each. -/
def repetitionWarnings (pallets : List Text) : List Text :=
  (repeatedOccurrences pallets).map fun entry => repetitionWarning entry.1

theorem any_isSeparator_iff {name : Text} :
    name.any isSeparator = true ↔
      CodePoint.scalar '/' ∈ name ∨ CodePoint.scalar '\\' ∈ name := by
  simp [List.any_eq_true, isSeparator, and_or_left, exists_or]

theorem nameError?_eq (name : Text) :
    nameError? name =
      if IsAcceptable name then none else some (complaint name) := by
  unfold nameError? complaint IsAcceptable
  by_cases blank : name.isBlank
  · simp [blank, Text.stripped_eq_nil_iff]
  · by_cases separated : name.any isSeparator
    · have holdsOne := any_isSeparator_iff.mp separated
      have notNone : ¬(CodePoint.scalar '/' ∉ name ∧
          CodePoint.scalar '\\' ∉ name) := by tauto
      simp [blank, separated, Text.stripped_eq_nil_iff, notNone]
    · have holdsNone := mt any_isSeparator_iff.mpr separated
      rw [not_or] at holdsNone
      simp [blank, separated, Text.stripped_eq_nil_iff, holdsNone]

/-- One complaint for every name that is not acceptable, in order. -/
theorem filterMap_nameError? (pallets : List Text) :
    pallets.filterMap nameError? =
      (pallets.filter fun name => ¬IsAcceptable name).map complaint := by
  induction pallets with
  | nil => rfl
  | cons name rest ih =>
      by_cases fine : IsAcceptable name <;>
        simp [nameError?_eq name, fine, ih]

theorem repetitions_cons (seen : List Text) (name : Text) (rest : List Text) :
    repetitions seen (name :: rest) =
      if name ∈ seen then
        repetitionWarning name :: repetitions (name :: seen) rest
      else repetitions (name :: seen) rest :=
  rfl

/-- The names that have been seen are those in front of the position. -/
theorem repetitions_eq {seen before : List Text}
    (sees : ∀ name, name ∈ seen ↔ name ∈ before) (names : List Text) :
    repetitions seen names =
      ((names.zipIdx before.length).filter fun entry =>
        decide (entry.1 ∈ (before ++ names).take entry.2)).map
          fun entry => repetitionWarning entry.1 := by
  induction names generalizing seen before with
  | nil => rfl
  | cons name rest ih =>
      have front : (before ++ name :: rest).take before.length = before := by
        simp
      have seesNow : ∀ other,
          other ∈ name :: seen ↔ other ∈ before ++ [name] := by
        intro other
        simp [sees, or_comm]
      have later := ih seesNow
      rw [List.length_append, List.length_singleton, List.append_assoc,
        List.singleton_append] at later
      rw [repetitions_cons, List.zipIdx_cons, List.filter_cons]
      simp only [front, ← sees, decide_eq_true_eq, later]
      split
      · rfl
      · rfl

theorem repetitions_nil (pallets : List Text) :
    repetitions [] pallets = repetitionWarnings pallets := by
  have nothingSeen : ∀ name : Text, name ∈ ([] : List Text) ↔ name ∈ [] :=
    fun _ => Iff.rfl
  rw [repetitions_eq nothingSeen, repetitionWarnings, repeatedOccurrences]
  congr 1
  exact List.filter_congr fun _ _ => decide_eq_decide.mpr Iff.rfl

theorem palletErrors_eq_nil_iff {pallets : List Text} :
    palletErrors pallets = [] ↔
      pallets ≠ [] ∧ ∀ name ∈ pallets, IsAcceptable name := by
  unfold palletErrors
  split
  case isTrue empty => simp [empty]
  case isFalse nonempty => simp [nonempty, filterMap_nameError?]

/-- Another order of the pallets gives the errors in another order. -/
theorem palletErrors_perm {pallets other : List Text}
    (same : pallets.Perm other) :
    (palletErrors pallets).Perm (palletErrors other) := by
  unfold palletErrors
  by_cases empty : pallets = []
  · subst empty
    simp [same.nil_eq.symm]
  · have otherNonempty : other ≠ [] := by
      rintro rfl
      exact empty same.eq_nil
    rw [if_neg empty, if_neg otherNonempty]
    exact same.filterMap _

/-- As many warnings as names that are not the first of their kind. -/
theorem length_repetitionWarnings (pallets : List Text) :
    (repetitionWarnings pallets).length + pallets.toFinset.card =
      pallets.length := by
  rw [repetitionWarnings, List.length_map, length_repeatedOccurrences]

theorem repetitionWarnings_perm {pallets other : List Text}
    (same : pallets.Perm other) :
    (repetitionWarnings pallets).Perm (repetitionWarnings other) := by
  have mapped := (repeatedOccurrences_perm same).map repetitionWarning
  rwa [List.map_map, List.map_map] at mapped

end Validation

namespace Settings

open Validation

section

variable {settings : Settings} {files : FileSystem} {place : Place}

theorem validate_eq_ok_iff {validation : Validation} :
    settings.validate files place = .ok validation ↔
      ∃ answer,
        files.isDirectory place settings.outputPath.parent = .ok answer ∧
        validation =
          { isValid := (palletErrors settings.pallets).isEmpty
            errors := palletErrors settings.pallets
            warnings := repetitionWarnings settings.pallets ++
              if answer then []
              else [directoryWarning settings.outputPath.parent] } := by
  unfold validate
  cases answered : files.isDirectory place settings.outputPath.parent with
  | error cause => simp [answered]
  | ok answer => simp [answered, repetitions_nil, eq_comm]

/-- What is said about the directory of the output: nothing if the path leads to
one. -/
theorem validate_last {answer : Bool} {directory : Path}
    (answered : files.isDirectory place directory = .ok answer) :
    files.LeadsToDirectory place directory ∧
        (if answer then [] else [directoryWarning directory]) = [] ∨
      ¬files.LeadsToDirectory place directory ∧
        (if answer then [] else [directoryWarning directory]) =
          [directoryWarning directory] := by
  rw [← FileSystem.isDirectory_iff answered]
  cases answer <;> simp

/-- Validation gives one complaint for each name that is not acceptable, or the
complaint about an empty list, and one warning for each repetition, followed by
one if the output has no directory.  The settings are valid if there is a
name and all are acceptable.  Repetitions are counted by the names that occur,
and permuting the pallets permutes the findings about them. -/
theorem validate_finds {validation : Validation}
    (validated : settings.validate files place = .ok validation) :
    let pallets := settings.pallets
    let directory := settings.outputPath.parent
    ∃ last,
      (files.LeadsToDirectory place directory ∧ last = [] ∨
        ¬files.LeadsToDirectory place directory ∧
          last = [directoryWarning directory]) ∧
      validation.errors =
        (if pallets = [] then [Text.ofString "No pallets configured"]
        else (pallets.filter fun name => ¬IsAcceptable name).map complaint) ∧
      validation.warnings = repetitionWarnings pallets ++ last ∧
      (validation.isValid = true ↔
        pallets ≠ [] ∧ ∀ name ∈ pallets, IsAcceptable name) ∧
      (repetitionWarnings pallets).length + pallets.toFinset.card =
        pallets.length ∧
      ∀ permuted : List Text, permuted.Perm pallets → ∃ other,
        { settings with pallets := permuted }.validate files place =
          .ok other ∧
        other.errors.Perm validation.errors ∧
        other.warnings = repetitionWarnings permuted ++ last ∧
        (repetitionWarnings permuted).Perm (repetitionWarnings pallets) := by
  intro pallets directory
  obtain ⟨answer, answered, rfl⟩ := validate_eq_ok_iff.mp validated
  refine ⟨_, validate_last answered, ?_, rfl, ?_,
    length_repetitionWarnings pallets, ?_⟩
  · rw [palletErrors, filterMap_nameError?]
  · exact List.isEmpty_iff.trans palletErrors_eq_nil_iff
  · intro permuted same
    -- The directory of the output does not depend on the pallets.
    have validatedToo :
        { settings with pallets := permuted }.validate files place = .ok _ :=
      validate_eq_ok_iff.mpr ⟨answer, answered, rfl⟩
    exact ⟨_, validatedToo, palletErrors_perm same, rfl,
      repetitionWarnings_perm same⟩

end

/-- Pallets with blank names, a separator and repetitions, beside a base
directory that does not exist. -/
def muddled : Settings :=
  { baseDir := .ofText "gone"
    pallets := ["posts", " ", "a/b", "posts", "\u3000", " "]
    runtimeTypes := .empty
    customTypes := .empty
    logging := {} }

theorem validate_finds_muddled :
    ∃ validation,
      muddled.validate ⟨[(["scripts"], .directory)]⟩ ⟨["scripts"], 0⟩ =
        .ok validation ∧
      validation.errors =
        [Text.ofString "Pallet name must not be blank",
          Text.ofString "Pallet name must not contain path separators: a/b",
          Text.ofString "Pallet name must not be blank",
          Text.ofString "Pallet name must not be blank"] ∧
      validation.warnings.length = 3 ∧ validation.isValid = false := by
  have validated : ∃ validation,
      muddled.validate ⟨[(["scripts"], .directory)]⟩ ⟨["scripts"], 0⟩ =
        .ok validation := ⟨_, by rfl⟩
  obtain ⟨validation, validated⟩ := validated
  obtain ⟨last, missing, errors, warnings, valid, counted, _⟩ :=
    validate_finds validated
  have nowhere : ¬FileSystem.LeadsToDirectory ⟨[(["scripts"], .directory)]⟩
      ⟨["scripts"], 0⟩ muddled.outputPath.parent := by
    have answered : FileSystem.isDirectory ⟨[(["scripts"], .directory)]⟩
        ⟨["scripts"], 0⟩ muddled.outputPath.parent = .ok false := by rfl
    exact fun leads =>
      nomatch (FileSystem.isDirectory_iff answered).mpr leads
  refine ⟨validation, validated, errors.trans (by rfl), ?_, ?_⟩
  · have warned := (missing.resolve_left fun leads => nowhere leads.1).2
    have distinct : muddled.pallets.toFinset.card = 4 := by decide
    have length : muddled.pallets.length = 6 := by decide
    rw [warnings, warned, List.length_append, List.length_singleton]
    omega
  · rw [Bool.eq_false_iff, ne_eq, valid]
    decide

end Settings

end PalletTypes
