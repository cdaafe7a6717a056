import PalletTypes.Proofs.Path.Components
import PalletTypes.Proofs.Settings.Confinement
import PalletTypes.Settings.Assignment

/-!
# The paths of a run and their parts

The path of a pallet goes on from the base directory, whatever the pallet is
called: a slash at the start of the name does not make it absolute, and what
looks like a field of a template in the name is not filled.  The path can be
told from its names alone, so pallets with acceptable names have paths of their
own.
-/

namespace PalletTypes

/-- The rest of a template in which a name between braces stands for its
value, and a doubled brace for one; `name` is the name that is open.  A value
is taken as it is, whatever braces it holds. -/
def Text.fillBraces? (value? : Text → Option Text) :
    Option Text → Text → Option Text
  | none, [] => some []
  | some _, [] => none
  | none, .scalar '\x7b' :: .scalar '\x7b' :: rest =>
      (fillBraces? value? none rest).map (.scalar '\x7b' :: ·)
  | none, .scalar '\x7d' :: .scalar '\x7d' :: rest =>
      (fillBraces? value? none rest).map (.scalar '\x7d' :: ·)
  | none, .scalar '\x7b' :: rest => fillBraces? value? (some []) rest
  | none, .scalar '\x7d' :: _ => none
  | none, point :: rest => (fillBraces? value? none rest).map (point :: ·)
  | some name, .scalar '\x7d' :: rest =>
      (value? name).bind fun value =>
        (fillBraces? value? none rest).map (value ++ ·)
  | some name, point :: rest => fillBraces? value? (some (name ++ [point])) rest

namespace Settings

/-- The template of the path of a types file, seen from the base directory. -/
def typesFileTemplate : Text := "../pallets/\x7bmodule\x7d/types.json"

/-- The template with a pallet filled in. -/
def filledTemplate? (pallet : Text) : Option Text :=
  Text.fillBraces? (fun name => if name = "module" then some pallet else none)
    none typesFileTemplate

theorem filledTemplate?_eq (pallet : Text) :
    filledTemplate? pallet =
      some ("../pallets/" ++ pallet ++ "/types.json") :=
  rfl

/-- The path of a pallet is the filled template, seen from the base
directory. -/
theorem palletPath_eq_join (settings : Settings) (pallet : Text) :
    ∃ filled, filledTemplate? pallet = some filled ∧
      settings.palletPath pallet = settings.baseDir.join (.ofText filled) :=
  ⟨_, filledTemplate?_eq pallet, rfl⟩

theorem names_palletPath_splitOn (settings : Settings) (pallet : Text) :
    (settings.palletPath pallet).names =
      settings.baseDir.names ++ [upward, palletsName] ++
        ((pallet.splitOn slash).filter fun segment =>
          segment ≠ [] ∧ segment ≠ current) ++ [fileName] := by
  rw [names_palletPath, Path.names_ofText, List.append_assoc,
    List.append_assoc]
  rfl

/-- Acceptable names that lead to the same names of a path are the same. -/
theorem eq_of_names_eq {first second : Text}
    (firstAccepted : Validation.nameError? first = none)
    (secondAccepted : Validation.nameError? second = none)
    (same : (Path.ofText first).names = (Path.ofText second).names) :
    first = second := by
  rw [names_of_nameError? firstAccepted,
    names_of_nameError? secondAccepted] at same
  split at same
  case isTrue firstCurrent =>
    split at same
    case isTrue secondCurrent => exact firstCurrent.trans secondCurrent.symm
    case isFalse => exact nomatch same
  case isFalse =>
    split at same
    case isTrue => exact nomatch same
    case isFalse => exact List.head_eq_of_cons_eq same

theorem palletPath_eq_iff (settings : Settings) {first second : Text}
    (firstAccepted : Validation.nameError? first = none)
    (secondAccepted : Validation.nameError? second = none) :
    settings.palletPath first = settings.palletPath second ↔
      first = second := by
  constructor
  · intro same
    have names := congrArg Path.names same
    rw [names_palletPath, names_palletPath, List.append_cancel_left_eq] at names
    have inside : (Path.ofText first).names ++ [fileName] =
        (Path.ofText second).names ++ [fileName] := by
      simpa using names
    exact eq_of_names_eq firstAccepted secondAccepted
      (List.append_cancel_right inside)
  · rintro rfl
    rfl

/-- The path of a pallet has the name of the directory of all pallets where
the output has its file name. -/
theorem palletPath_ne_outputPath (settings : Settings) (pallet : Text) :
    settings.palletPath pallet ≠ settings.outputPath := by
  intro same
  have names := congrArg Path.names same
  rw [names_palletPath, names_outputPath, List.append_cancel_left_eq] at names
  have behind := (List.cons.inj names).2
  exact absurd (List.cons.inj behind).1 (by decide)

/-- Assigning the base directory its own text changes nothing. -/
theorem assign_own_text (settings : Settings) :
    settings.assign (.baseDir (.text settings.baseDir.text)) =
      { settings := settings } := by
  simp only [assign, baseDirOf, Path.ofText_text]

/-- The path of a pallet keeps the root and the names of the base directory
and adds those of the filled template, in which the pallet stands as it is.
It is never the path of the output.  The base directory can be assigned its own
text without a change, and pallets with acceptable names have paths of their
own. -/
theorem palletPath_parts (settings : Settings) (base : Text) :
    let based := { settings with baseDir := .ofText base }
    (∀ pallet,
      (based.palletPath pallet).root = (Path.ofText base).root ∧
      (based.palletPath pallet).names =
        (Path.ofText base).names ++ [upward, palletsName] ++
          ((pallet.splitOn slash).filter fun segment =>
            segment ≠ [] ∧ segment ≠ current) ++ [fileName] ∧
      (∃ filled, filledTemplate? pallet = some filled ∧
        based.palletPath pallet = (Path.ofText base).join (.ofText filled)) ∧
      based.palletPath pallet ≠ based.outputPath) ∧
    based.assign (.baseDir (.text based.baseDir.text)) =
      { settings := based } ∧
    ∀ first second, Validation.nameError? first = none →
      Validation.nameError? second = none →
        (based.palletPath first = based.palletPath second ↔
          first = second) := by
  intro based
  refine ⟨?_, assign_own_text based, ?_⟩
  · intro pallet
    exact ⟨root_palletPath based pallet, names_palletPath_splitOn based pallet,
      palletPath_eq_join based pallet, palletPath_ne_outputPath based pallet⟩
  · intro first second firstAccepted secondAccepted
    exact palletPath_eq_iff based firstAccepted secondAccepted

/-- A name that looks absolute, goes up and holds a field of the template
neither replaces the base directory nor fills the field. -/
theorem palletPath_parts_misleading :
    let settings := { escaping with baseDir := .ofText "//base/./dir/" }
    (settings.palletPath "/\x7bmodule\x7d//./..").root = .doubled ∧
      (settings.palletPath "/\x7bmodule\x7d//./..").names =
        (["base", "dir", "..", "pallets", "\x7bmodule\x7d", "..",
          "types.json"] : List Text) ∧
      settings.palletPath ".." ≠ settings.palletPath "." := by
  intro settings
  obtain ⟨parts, _, distinct⟩ := palletPath_parts escaping "//base/./dir/"
  obtain ⟨root, names, _⟩ := parts "/\x7bmodule\x7d//./.."
  refine ⟨root.trans (by decide), names.trans (by decide), ?_⟩
  exact mt (distinct ".." "." (by decide) (by decide)).mp (by decide)

end Settings

end PalletTypes
