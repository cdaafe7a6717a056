import Mathlib.Data.List.Forall2
import PalletTypes.Settings.Assignment

/-!
# Settings after assignments

Every assignment replaces one setting or leaves all as they are.  So after any
number of them each setting has the value that was assigned last, or the one it
started with: `foldl_view` says this once for whatever a single assignment
replaces.  The settings of the log can be assigned on the settings as a whole or
on their part about the log, and nothing depends on which.
-/

namespace PalletTypes

/-- Where each step replaces what is seen of a state or leaves it, the last
replacement is seen after all steps. -/
theorem foldl_view {σ α β : Type} (step : σ → α → σ) (view : σ → β)
    (given? : α → Option β)
    (replaces : ∀ state input,
      view (step state input) = (given? input).getD (view state))
    (state : σ) (inputs : List α) :
    view (inputs.foldl step state) =
      ((inputs.filterMap given?).getLast?).getD (view state) := by
  induction inputs generalizing state with
  | nil => rfl
  | cons input rest ih =>
      rw [List.foldl_cons, ih, replaces, List.filterMap_cons]
      cases given? input with
      | none => rfl
      | some value => simp [List.getLast?_cons]

/-- A setting of the log that is on or off. -/
inductive Switch where
  | console
  | colors
  | file
deriving DecidableEq, Repr

/-- A setting of the log. -/
inductive LogSetting where
  | switch (switch : Switch)
  | level
deriving DecidableEq, Repr

/-- What a setting of the log is assigned on: the settings as a whole, or their
part about the log. -/
inductive Owner where
  | whole
  | part
deriving DecidableEq, Repr

/-- An assignment of a setting by its name. -/
inductive Change where
  | baseDir (content : Text)
  | log (owner : Owner) (setting : LogSetting) (value : Value)

namespace LogSetting

/-- The name under which the setting is assigned. -/
def name : LogSetting → Text
  | .switch .console => "console_logging"
  | .switch .colors => "console_use_colors"
  | .switch .file => "file_logging"
  | .level => "console_log_level"

def assignment : LogSetting → Value → LoggingAssignment
  | .switch .console => .console
  | .switch .colors => .colors
  | .switch .file => .file
  | .level => .level

end LogSetting

/-- Whether a switch is on. -/
def LoggingSettings.isOn (settings : LoggingSettings) : Switch → Bool
  | .console => settings.console
  | .colors => settings.colors
  | .file => settings.file

namespace Settings

/-- Assign a property of the settings by its name. -/
def assignNamed (settings : Settings) (name : Text) (value : Value) :
    Assigned Settings :=
  ((Assignment.ofName? name value).map settings.assign).getD
    { settings := settings }

/-- Assign a property of the part about the log by its name. -/
def assignNamedOfLogging (settings : Settings) (name : Text) (value : Value) :
    Assigned Settings :=
  ((LoggingAssignment.ofName? name value).map settings.assignLogging).getD
    { settings := settings }

end Settings

namespace Log.Level

/-- The text is the name of a level. -/
def IsName (text : Text) : Prop := text ∈ all.map name

theorem ofName?_eq_some_iff {name : Text} {level : Level} :
    ofName? name = some level ↔ level.name = name := by
  constructor
  · intro found
    unfold ofName? at found
    simpa using List.find?_some found
  · rintro rfl
    exact ofName?_name level

theorem isName_iff {text : Text} :
    IsName text ↔ ∃ level, ofName? text = some level := by
  simp only [IsName, List.mem_map, ofName?_eq_some_iff]
  constructor
  · rintro ⟨level, _, named⟩
    exact ⟨level, named⟩
  · rintro ⟨level, named⟩
    exact ⟨level, by cases level <;> decide, named⟩

theorem isSome_ofName?_iff (text : Text) :
    (ofName? text).isSome = true ↔ IsName text := by
  rw [isName_iff, Option.isSome_iff_exists]

instance (text : Text) : Decidable (IsName text) :=
  decidable_of_iff _ (isSome_ofName?_iff text)

theorem isName_name (level : Level) : IsName level.name :=
  isName_iff.mpr ⟨level, ofName?_name level⟩

end Log.Level

namespace Change

def assign (settings : Settings) : Change → Assigned Settings
  | .baseDir content => settings.assignNamed "base_dir" (.text content)
  | .log .whole setting value => settings.assignNamed setting.name value
  | .log .part setting value =>
      settings.assignNamedOfLogging setting.name value

/-- The same change, whatever it is made on. -/
inductive Same : Change → Change → Prop where
  | baseDir (content : Text) : Same (.baseDir content) (.baseDir content)
  | log (owner other : Owner) (setting : LogSetting) (value : Value) :
      Same (.log owner setting value) (.log other setting value)

/-- The base directory that a change assigns. -/
def baseDir? : Change → Option Path
  | .baseDir content => some (.ofText content)
  | .log _ _ _ => none

/-- The value that a change assigns to a setting of the log. -/
def value? (wanted : LogSetting) : Change → Option Value
  | .baseDir _ => none
  | .log _ setting value => if setting = wanted then some value else none

/-- The upper case of a text, if it is the name of a level. -/
def levelName? : Value → Option Text
  | .text content =>
      if Log.Level.IsName content.upper then
        some content.upper
      else none
  | _ => none

/-- What was assigned to a setting of the log last. -/
def lastValue? (setting : LogSetting) (changes : List Change) : Option Value :=
  (changes.filterMap (value? setting)).getLast?

/-- The last level name that was assigned, in upper case. -/
def lastLevelName? (changes : List Change) : Option Text :=
  ((changes.filterMap (value? .level)).filterMap levelName?).getLast?

/-- The last base directory that was assigned. -/
def lastBaseDir? (changes : List Change) : Option Path :=
  (changes.filterMap baseDir?).getLast?

end Change

namespace Settings

/-- The settings after a change. -/
def changed (settings : Settings) (change : Change) : Settings :=
  (change.assign settings).settings

/-- The settings after changes in turn. -/
def after (settings : Settings) (changes : List Change) : Settings :=
  changes.foldl changed settings

/-- What changes in turn lead to, one by one. -/
def outcomes (settings : Settings) : List Change → List (Assigned Settings)
  | [] => []
  | change :: rest =>
      change.assign settings :: (settings.changed change).outcomes rest

end Settings

/-! ## Assigning a level -/

namespace LoggingSettings

/-- A text that names a level in any case is taken in upper case. -/
theorem levelName?_text (content : Text) :
    Change.levelName? (.text content) =
      (levelOf? content).map Log.Level.name := by
  rw [Change.levelName?, levelOf?]
  cases named : Log.Level.ofName? content.upper with
  | none =>
      have unknown : ¬Log.Level.IsName content.upper := by
        rw [Log.Level.isName_iff, named]
        exact fun found => nomatch found.choose_spec
      rw [if_neg unknown]
      rfl
  | some level =>
      rw [if_pos (Log.Level.isName_iff.mpr ⟨level, named⟩),
        ← Log.Level.ofName?_eq_some_iff.mp named]
      rfl

/-- A letter that only the upper case brings into the alphabet counts. -/
example : Change.levelName? (.text "\u0131nfo") = some "INFO" := by
  decide +kernel

variable (settings : LoggingSettings)

theorem assign_level_of_name {content : Text} {level : Log.Level}
    (named : levelOf? content = some level) :
    settings.assign (.level (.text content)) =
      { settings := { settings with level := level } } := by
  rw [assign, named]

theorem assign_level_of_unknown {content : Text}
    (unknown : levelOf? content = none) :
    settings.assign (.level (.text content)) =
      { settings := settings
        records := [settings.rejectedRecord content] } := by
  rw [assign, unknown]

/-- Assigning a level takes the name that the value gives, if it gives one. -/
theorem name_level_assign (value : Value) :
    (settings.assign (.level value)).settings.level.name =
      (Change.levelName? value).getD settings.level.name := by
  cases value with
  | text content =>
      rw [levelName?_text]
      cases named : levelOf? content with
      | none => rw [assign_level_of_unknown settings named]; rfl
      | some level => rw [assign_level_of_name settings named]; rfl
  | _ => rfl

/-- Assigning a level leaves the switches as they are. -/
theorem isOn_assign_level (value : Value) (switch : Switch) :
    (settings.assign (.level value)).settings.isOn switch =
      settings.isOn switch := by
  cases value with
  | text content =>
      cases named : levelOf? content with
      | none => rw [assign_level_of_unknown settings named]
      | some level =>
          rw [assign_level_of_name settings named]
          cases switch <;> rfl
  | _ => rfl

end LoggingSettings

/-! ## Single changes -/

namespace Change

theorem assign_baseDir (settings : Settings) (content : Text) :
    (Change.baseDir content).assign settings =
      { settings := { settings with baseDir := .ofText content } } := by
  have named (value : Value) :
      Assignment.ofName? "base_dir" value = some (.baseDir value) := by
    rfl
  rw [assign, Settings.assignNamed, named]
  rfl

/-- A setting of the log is assigned in the same way on both owners. -/
theorem assign_log (settings : Settings) (owner : Owner)
    (setting : LogSetting) (value : Value) :
    (Change.log owner setting value).assign settings =
      settings.assignLogging (setting.assignment value) := by
  have named : Assignment.ofName? setting.name value =
      some (.logging (setting.assignment value)) := by
    rcases setting with (_ | _ | _) | _ <;> rfl
  have namedOfLogging : LoggingAssignment.ofName? setting.name value =
      some (setting.assignment value) := by
    rcases setting with (_ | _ | _) | _ <;> rfl
  cases owner with
  | whole =>
      rw [assign, Settings.assignNamed, named]
      rfl
  | part =>
      rw [assign, Settings.assignNamedOfLogging, namedOfLogging]
      rfl

theorem Same.assign_eq {change other : Change} (same : Same change other)
    (settings : Settings) : change.assign settings = other.assign settings := by
  cases same with
  | baseDir content => rfl
  | log owner other setting value => rw [assign_log, assign_log]

section

variable (settings : Settings) (change : Change)

theorem isOn_changed (switch : Switch) :
    (settings.changed change).logging.isOn switch =
      ((change.value? (.switch switch)).map Value.isTruthy).getD
        (settings.logging.isOn switch) := by
  rw [Settings.changed]
  cases change with
  | baseDir content => rw [assign_baseDir]; rfl
  | log owner setting value =>
      rw [assign_log]
      cases setting with
      | level => exact settings.logging.isOn_assign_level value switch
      | switch assigned => cases assigned <;> cases switch <;> rfl

theorem levelName_changed :
    (settings.changed change).logging.level.name =
      ((change.value? .level).bind levelName?).getD
        settings.logging.level.name := by
  rw [Settings.changed]
  cases change with
  | baseDir content => rw [assign_baseDir]; rfl
  | log owner setting value =>
      rw [assign_log]
      cases setting with
      | level => exact settings.logging.name_level_assign value
      | switch assigned => cases assigned <;> rfl

theorem baseDir_changed :
    (settings.changed change).baseDir =
      change.baseDir?.getD settings.baseDir := by
  rw [Settings.changed]
  cases change with
  | baseDir content => rw [assign_baseDir]; rfl
  | log owner setting value => rw [assign_log]; rfl

/-- No change touches the pallets or the tables. -/
theorem content_changed :
    (settings.changed change).pallets = settings.pallets ∧
      (settings.changed change).runtimeTypes = settings.runtimeTypes ∧
      (settings.changed change).customTypes = settings.customTypes := by
  rw [Settings.changed]
  cases change with
  | baseDir content => rw [assign_baseDir]; exact ⟨rfl, rfl, rfl⟩
  | log owner setting value => rw [assign_log]; exact ⟨rfl, rfl, rfl⟩

end

/-- What is said about a change, and whether it fails.  A text that names no
level is rejected with a warning, what is no text is an error, and both leave
the settings as they are; any other change is carried out without a word. -/
def IsAnswered (settings : Settings) (answer : Assigned Settings) :
    Change → Prop
  | .log _ .level (.text content) =>
      if Log.Level.IsName content.upper then
        answer.records = [] ∧ answer.failure = none
      else
        answer.settings = settings ∧ answer.failure = none ∧
          answer.records =
            [{ level := .warning
               logger := Log.Logger.loggingSettings
               message := "Invalid console log level: " ++ content ++
                 ", keeping current: " ++ settings.logging.level.name }]
  | .log _ .level value =>
      answer.settings = settings ∧ answer.records = [] ∧
        ∃ failure, answer.failure = some failure ∧
          failure = .notLevel value.kind ∧
          failure.className = "AttributeError"
  | _ => answer.records = [] ∧ answer.failure = none

theorem isAnswered_assign (settings : Settings) (change : Change) :
    change.IsAnswered settings (change.assign settings) := by
  cases change with
  | baseDir content => rw [assign_baseDir]; exact ⟨rfl, rfl⟩
  | log owner setting value =>
      rw [assign_log]
      cases setting with
      | switch assigned => cases assigned <;> exact ⟨rfl, rfl⟩
      | level =>
          cases value with
          | text content =>
              simp only [IsAnswered]
              split
              case isTrue known =>
                obtain ⟨level, named⟩ := Log.Level.isName_iff.mp known
                rw [LogSetting.assignment, Settings.assignLogging,
                  LoggingSettings.assign_level_of_name _ named]
                exact ⟨rfl, rfl⟩
              case isFalse unknown =>
                have unnamed : LoggingSettings.levelOf? content = none :=
                  Option.eq_none_iff_forall_ne_some.mpr fun level named =>
                    unknown (Log.Level.isName_iff.mpr ⟨level, named⟩)
                rw [LogSetting.assignment, Settings.assignLogging,
                  LoggingSettings.assign_level_of_unknown _ unnamed]
                exact ⟨rfl, rfl, rfl⟩
          | _ => exact ⟨rfl, rfl, _, rfl, rfl, rfl⟩

end Change

/-! ## Changes in turn -/

namespace Settings

open Change

section

variable (settings : Settings) (changes : List Change)

theorem isOn_after (switch : Switch) :
    (settings.after changes).logging.isOn switch =
      ((lastValue? (.switch switch) changes).map Value.isTruthy).getD
        (settings.logging.isOn switch) := by
  rw [lastValue?, ← List.getLast?_map, List.map_filterMap]
  exact foldl_view changed (fun settings => settings.logging.isOn switch) _
    (fun settings change => isOn_changed settings change switch)
    settings changes

theorem levelName_after :
    (settings.after changes).logging.level.name =
      (lastLevelName? changes).getD settings.logging.level.name := by
  rw [lastLevelName?, List.filterMap_filterMap]
  exact foldl_view changed (fun settings => settings.logging.level.name) _
    levelName_changed settings changes

theorem baseDir_after :
    (settings.after changes).baseDir =
      (lastBaseDir? changes).getD settings.baseDir :=
  foldl_view changed Settings.baseDir _ baseDir_changed settings changes

theorem content_after :
    (settings.after changes).pallets = settings.pallets ∧
      (settings.after changes).runtimeTypes = settings.runtimeTypes ∧
      (settings.after changes).customTypes = settings.customTypes := by
  unfold after
  induction changes generalizing settings with
  | nil => exact ⟨rfl, rfl, rfl⟩
  | cons change rest ih =>
      obtain ⟨pallets, runtime, custom⟩ := content_changed settings change
      have later := ih (settings.changed change)
      rwa [pallets, runtime, custom] at later

theorem outcomes_of_same {changes others : List Change}
    (same : List.Forall₂ Same changes others) :
    settings.outcomes changes = settings.outcomes others := by
  induction same generalizing settings with
  | nil => rfl
  | cons first _ ih =>
      rw [outcomes, outcomes, changed, changed, first.assign_eq, ih]

end

/-- New settings after any changes: a switch is on if the value assigned last is
true, the level is the last one that was named, the base directory the last one
that was given, and each is as it was at first if there was none; all paths are
those of new settings with this base directory, and the pallets and the tables
stay.  On what the settings of the log were assigned makes no difference, and
the next change is answered as it should be. -/
theorem after_changes (request : SettingsRequest) (baseDir : Path)
    (changes : List Change) :
    let fresh := request.initial
    let now := (fresh baseDir).after changes
    (now.logging.console =
        ((lastValue? (.switch .console) changes).map Value.isTruthy).getD
          true ∧
      now.logging.colors =
        ((lastValue? (.switch .colors) changes).map Value.isTruthy).getD
          true ∧
      now.logging.file =
        ((lastValue? (.switch .file) changes).map Value.isTruthy).getD
          false) ∧
    (now.logging.level.name =
        (lastLevelName? changes).getD (Text.ofString "INFO") ∧
      Log.Level.IsName now.logging.level.name) ∧
    now.baseDir = (lastBaseDir? changes).getD baseDir ∧
    (now.outputPath = (fresh now.baseDir).outputPath ∧
      ∀ pallet, now.palletPath pallet =
        (fresh now.baseDir).palletPath pallet) ∧
    (now.pallets = (fresh baseDir).pallets ∧
      now.runtimeTypes = (fresh baseDir).runtimeTypes ∧
      now.customTypes = (fresh baseDir).customTypes) ∧
    (∀ others, List.Forall₂ Same changes others →
      (fresh baseDir).outcomes changes = (fresh baseDir).outcomes others) ∧
    ∀ change : Change, change.IsAnswered now (change.assign now) := by
  intro fresh now
  have switches := isOn_after (fresh baseDir) changes
  refine ⟨⟨switches .console, switches .colors, switches .file⟩,
    ⟨levelName_after (fresh baseDir) changes,
      now.logging.level.isName_name⟩,
    baseDir_after (fresh baseDir) changes, ⟨rfl, fun _ => rfl⟩,
    content_after (fresh baseDir) changes, ?_, isAnswered_assign now⟩
  intro others same
  exact outcomes_of_same (fresh baseDir) same

end Settings

end PalletTypes
