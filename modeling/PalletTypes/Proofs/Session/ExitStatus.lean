import PalletTypes.Proofs.Json.Recognition
import PalletTypes.Proofs.Session.Endings
import PalletTypes.Proofs.TypesFile.Spelling

/-!
# The exit status of a run

A run with the default settings, in a working directory that exists, comes to
its end: with status 0 and nothing worse than information in the log if the
file system is ready, and otherwise with status 1 and one error.  The error
blames the first pallet that cannot be read, or the output.  Only where the
path of the directory above has too many bytes, validation already fails, and
the error blames this directory.  What a pallet defines has to be read even if
a later pallet defines it again, so the limit of the reader shows.
-/

namespace PalletTypes.Session

open Aggregation (Ready Blames)

/-- A run with the default settings has exit status 0 and says nothing worse
than information if everything is ready; otherwise it has exit status 1 and
ends with its only error, about a types file that is to blame, unless the path
of the directory above has too many bytes. -/
theorem run_exitStatus (session : Session) (start : Start)
    (here : session.place.Exists session.files)
    (speaks : session.SpeaksToConsole)
    (pick : TypesFile.MayPick session.files session.place
      (Settings.defaults session.place).outputPath
      (session.pickName session.files session.place
        (Settings.defaults session.place).outputPath)) :
    let settings := Settings.defaults session.place
    let directory := settings.outputPath.parent
    let ending := session.run start {}
    Ready settings session.files session.place ∧
        session.Ends ending exitSuccess [] ∨
      ¬Ready settings session.files session.place ∧
        ∃ record, session.Ends ending exitFailure [record] ∧
          record.level = .error ∧
          if directory.isTooLong then
            record = start.unhandledRecord (.refused .nameTooLong directory)
          else ∃ error : TypesError,
            Blames settings session.files session.place error.path ∧
            record =
              start.say .error ("Type aggregation failed: " ++ error.message) ∧
            error.path.text <:+ record.message := by
  intro settings directory ending
  have sound := Settings.isSound_defaults here
  by_cases long : directory.isTooLong
  · have ends := run_ends_of_isTooLong here speaks start long
    exact Or.inr ⟨not_ready_of_isTooLong sound.nonempty long, _, ends, rfl,
      (if_pos long).mpr rfl⟩
  · have ends := run_ends_of_short here speaks start long
    rcases Aggregation.result_cases sound pick with ⟨isReady, result⟩ |
      ⟨notReady, error, result, blames⟩
    · rw [result] at ends
      exact Or.inl ⟨isReady, ends⟩
    · rw [result] at ends
      have told : error.path.text <:+
          (start.failureRecord (.types error)).message :=
        ⟨"Type aggregation failed: " ++ (error.reason.message ++ ": "), by
          simp [Start.failureRecord, Start.say, TypesError.message,
            TypesError.describe]⟩
      exact Or.inr ⟨notReady, _, ends, rfl,
        (if_neg long).mpr ⟨error, blames, rfl, told⟩⟩

/-- A session beside pallets with these types files. -/
def besidePallets (content : Text → String) : Session :=
  { files :=
      ⟨(["scripts"], .directory) :: (["pallets"], .directory) ::
        Settings.defaultPallets.flatMap fun pallet =>
          [(["pallets", pallet], .directory),
            (["pallets", pallet, "types.json"],
              .file FileSystem.publicMode (content pallet).toUTF8)]⟩
    place := ⟨["scripts"], 0⟩ }

section

variable (content : Text → String)

theorem exists_besidePallets :
    (besidePallets content).place.Exists (besidePallets content).files where
  isName := by
    have isName : ∀ name ∈ [Text.ofString "scripts"], IsName name := by decide
    exact isName
  nameable := by
    have nameable : ∀ name ∈ [Text.ofString "scripts"], ∀ point ∈ name,
        ¬point.IsUnfit := by
      unfold CodePoint.IsUnfit
      decide
    exact nameable
  leads := by
    constructor
    · have downward : upward ∉ [Text.ofString "scripts"] := by decide
      exact downward
    · rfl

theorem read_besidePallets :
    ∀ pallet ∈ Settings.defaultPallets,
      (besidePallets content).files.read (besidePallets content).place
          ((Settings.defaults ⟨["scripts"], 0⟩).palletPath pallet) =
        .ok (content pallet).toUTF8 := by
  simp only [Settings.defaultPallets, List.forall_mem_cons, List.not_mem_nil,
    false_implies, implies_true, and_true]
  and_intros <;> rfl

end

/-- A session beside pallets that define no types. -/
def blankPallets : Session := besidePallets fun _ => "\x7b\x7d"

theorem load_blankPallets :
    ∀ pallet ∈ Settings.defaultPallets,
      TypesFile.load blankPallets.files blankPallets.place
          ((Settings.defaults blankPallets.place).palletPath pallet) =
        .ok (.ofPairs []) :=
  fun pallet listed => TypesFile.load_eq_ok_iff.mpr
    ⟨_, read_besidePallets _ pallet listed, TypesFile.decode_toUTF8 (by rfl)⟩

theorem ready_blankPallets :
    Ready (Settings.defaults blankPallets.place) blankPallets.files
      blankPallets.place where
  readable := fun pallet listed => ⟨_, load_blankPallets pallet listed⟩
  shallow := by
    intro table collected
    have loading : Aggregation.loadAll (Settings.defaults blankPallets.place)
        blankPallets.files blankPallets.place Settings.defaultPallets =
          .ok (Settings.defaultPallets.map fun pallet =>
            (pallet, .ofPairs [])) :=
      Aggregation.loadAll_eq_ok_iff.mpr
        ⟨by simp [Function.comp_def], by simpa using load_blankPallets⟩
    rw [Aggregation.collect_result] at collected
    cases (congrArg (Except.map _) loading).symm.trans collected
    decide
  vacant := fun occupied => nomatch occupied

theorem run_exitStatus_blankPallets :
    blankPallets.Ends (blankPallets.run .standalone {}) exitSuccess [] := by
  have picked : blankPallets.pickName blankPallets.files blankPallets.place
      (Settings.defaults blankPallets.place).outputPath =
        TypesFile.temporaryName "00000000" := by decide
  have staging : TypesFile.stagingDirectory? blankPallets.place
      (Settings.defaults blankPallets.place).outputPath =
        some (.ofText "/") := by decide
  have entered : blankPallets.files.enter .top (.ofText "/") = .ok .top := by
    rfl
  have pick : TypesFile.MayPick blankPallets.files blankPallets.place
      (Settings.defaults blankPallets.place).outputPath
      (blankPallets.pickName blankPallets.files blankPallets.place
        (Settings.defaults blankPallets.place).outputPath) := by
    rw [picked]
    exact TypesFile.mayPick_of_vacant staging (by decide) entered rfl
      ⟨"00000000".toList, by decide, by decide, rfl⟩ (by rfl)
  have speaks : blankPallets.SpeaksToConsole := List.forall_mem_nil _
  rcases run_exitStatus blankPallets .standalone (exists_besidePallets _)
      speaks pick with ⟨_, ends⟩ | ⟨notReady, _⟩
  · exact ends
  · exact absurd ready_blankPallets notReady

/-! ## Where the limits show -/

/-- Directories below each other, all with the same name. -/
def tower : Nat → FileSystem
  | 0 => .empty
  | depth + 1 => (tower depth).put (List.replicate (depth + 1) "x") .directory

/-- A session in the lowest directory. -/
def below (depth : Nat) : Session :=
  { files := tower depth
    place := ⟨List.replicate depth "x", 0⟩ }

theorem node?_tower {depth level : Nat} (high : level ≤ depth) :
    (tower depth).node? (List.replicate level "x") = some .directory := by
  induction depth with
  | zero =>
      rw [Nat.le_zero.mp high]
      rfl
  | succ depth ih =>
      rw [tower, FileSystem.node?_put (by simp)]
      split
      case isTrue => rfl
      case isFalse other =>
        have notTop : level ≠ depth + 1 := by
          rintro rfl
          exact other rfl
        exact ih (by omega)

theorem leadsDown_tower {depth level : Nat} (high : level ≤ depth) :
    (tower depth).LeadsDown (List.replicate level "x")
      ⟨List.replicate level "x", 0⟩ := by
  induction level with
  | zero => exact .nil _
  | succ level ih =>
      have stands := node?_tower high
      rw [List.replicate_succ'] at stands ⊢
      have admitted : Place.Admits ⟨List.replicate level "x", 0⟩ "x" :=
        ⟨by decide, rfl, by decide⟩
      exact (ih (Nat.le_of_succ_le high)).down (by decide)
        (FileSystem.find_eq_directory_iff.mpr
          (Or.inr ⟨admitted, stands, rfl⟩))

theorem exists_below (depth : Nat) :
    (below depth).place.Exists (below depth).files where
  isName := by
    intro name member
    rw [List.eq_of_mem_replicate member]
    decide
  nameable := by
    intro name member
    rw [List.eq_of_mem_replicate member]
    unfold CodePoint.IsUnfit
    decide
  leads := leadsDown_tower (Nat.le_refl depth)

theorem isTooLong_below {depth : Nat} (deep : 2047 ≤ depth) :
    (Settings.defaults (below depth).place).outputPath.parent.isTooLong =
      true := by
  have names : (Settings.defaults (below depth).place).outputPath.parent.names =
      List.replicate depth ("x" : Text) ++ [upward] := by
    rw [Settings.names_parent_outputPath,
      Settings.names_baseDir_defaults (exists_below depth), below]
  have nameSize : Text.byteSize "x" = 1 := by decide
  have upwardSize : Text.byteSize upward = 2 := by decide
  have named :
      (Settings.defaults (below depth).place).outputPath.parent.names ≠ [] := by
    simp [names]
  have size := Path.byteSize_text named
  rw [names, Path.namesSize_append, Path.namesSize_replicate] at size
  simp only [Path.namesSize, nameSize, upwardSize] at size
  rw [Path.isTooLong, decide_eq_true_eq, Path.maxBytes]
  omega

/-- Below that many directories the working directory exists, but a run does
not come to blame a types file. -/
theorem run_deepBelow :
    (below 2047).place.Exists (below 2047).files ∧
      (below 2047).Ends ((below 2047).run .standalone {}) exitFailure
        [Start.standalone.unhandledRecord (.refused .nameTooLong
          (Settings.defaults (below 2047).place).outputPath.parent)] ∧
      ∀ error : TypesError,
        ¬(below 2047).Ends ((below 2047).run .standalone {}) exitFailure
          [Start.standalone.say .error
            ("Type aggregation failed: " ++ error.message)] := by
  have ends := run_ends_of_isTooLong (exists_below 2047)
    (List.forall_mem_nil _) .standalone (isTooLong_below (Nat.le_refl _))
  refine ⟨exists_below 2047, ends, ?_⟩
  intro error endsOther
  have sameMessage := congrArg Log.Record.message (ends.last_unique endsOther)
  exact nomatch sameMessage

/-- All that can be told without the limit of the reader: the file of every
pallet spells a mapping of any depth, these merge to a table that is not nested
too deeply, and no directory stands in the place of the output. -/
structure SeemsReady (settings : Settings) (files : FileSystem)
    (place : Place) (tables : List (Text × TypeTable)) : Prop where
  pallets : tables.map Prod.fst = settings.pallets
  objects : ∀ source ∈ tables, ∃ members pairs,
    TypesFile.HoldsMembers files place (settings.palletPath source.1)
      members ∧
    Json.Tree.pairs? members = some pairs ∧ source.2 = .ofPairs pairs
  shallow : (Merge.empty.addAll
    (Aggregation.seeds settings ++ tables)).table.toValue.nesting ≤ 254
  vacant : files.isDirectory place settings.outputPath ≠ .ok true

/-- Lists in each other around an empty one. -/
def nestedLists : Nat → Json.Tree
  | 0 => .list []
  | depth + 1 => .list [nestedLists depth]

def brackets : Nat → List Char
  | 0 => ['[', ']']
  | depth + 1 => '[' :: brackets depth ++ [']']

theorem nesting_nestedLists (depth : Nat) :
    (nestedLists depth).nesting = depth + 1 := by
  induction depth with
  | zero => rfl
  | succ depth ih =>
      rw [nestedLists, Json.Tree.nesting, Json.Tree.itemsNesting,
        Json.Tree.itemsNesting, ih, Nat.max_zero]

theorem exists_value_nestedLists (depth : Nat) :
    ∃ value, (nestedLists depth).value? = some value := by
  induction depth with
  | zero => exact ⟨_, rfl⟩
  | succ depth ih =>
      obtain ⟨value, known⟩ := ih
      exact ⟨.list [value], by
        simp [nestedLists, Json.Tree.value?, Json.Tree.itemValues?, known]⟩

theorem leads_brackets (depth : Nat) :
    Json.Leads (brackets depth) (nestedLists depth).lexemes := by
  induction depth with
  | zero =>
      exact fun finished => ⟨⟨.between, .mark .closeList ::
        .mark .openList :: finished⟩, rfl, rfl⟩
  | succ depth ih =>
      have inner : Json.Tree.itemsLexemes true [nestedLists depth] =
          (nestedLists depth).lexemes := by
        simp [Json.Tree.itemsLexemes, Json.separatorLexemes]
      rw [nestedLists, Json.Tree.lexemes, inner]
      exact Json.leads_between .openList .closeList ih

/-- The first pallet defines a name by lists in each other, and the second one
defines it again. -/
def deepMembers (depth : Nat) (pallet : Text) :
    List (List Char × Json.Tree) :=
  if pallet = "donations" then [(['A'], nestedLists depth)]
  else if pallet = "moderation" then [(['A'], .number ['1'])]
  else []

def deepContent (depth : Nat) (pallet : Text) : String :=
  if pallet = "donations" then
    .ofList ('\x7b' :: '"' :: 'A' :: '"' :: ':' :: brackets depth ++ ['\x7d'])
  else if pallet = "moderation" then "\x7b\"A\":1\x7d"
  else "\x7b\x7d"

/-- A session beside such pallets. -/
def deepPallets (depth : Nat) : Session := besidePallets (deepContent depth)

theorem spells_deepContent (depth : Nat) (pallet : Text) :
    Json.Spells (deepContent depth pallet).toList
      (.mapping (deepMembers depth pallet)) := by
  unfold deepContent deepMembers
  split
  · have closed : Json.Closed ['A'] :=
      .plain (by decide) (by decide) (by decide) .nil
    have member := (Json.leads_quoted closed).append
      ((Json.separates_mark .colon).append (leads_brackets depth))
    have members : Json.Tree.entriesLexemes true [(['A'], nestedLists depth)] =
        .quoted ['A'] :: .mark .colon :: (nestedLists depth).lexemes := by
      simp [Json.Tree.entriesLexemes, Json.separatorLexemes]
    rw [String.toList_ofList]
    apply Json.Leads.spells
    rw [Json.Tree.lexemes, members]
    exact Json.leads_between .openMapping .closeMapping member
  · split
    · rfl
    · rfl

section

variable (depth : Nat)

theorem holdsMembers_deepPallets :
    ∀ pallet ∈ Settings.defaultPallets,
      TypesFile.HoldsMembers (deepPallets depth).files (deepPallets depth).place
        ((Settings.defaults (deepPallets depth).place).palletPath pallet)
        (deepMembers depth pallet) :=
  fun pallet listed =>
    ⟨_, read_besidePallets _ pallet listed, spells_deepContent depth pallet⟩

/-- The deep definition is replaced, whatever its depth. -/
theorem seemsReady_deepPallets :
    ∃ tables, SeemsReady (Settings.defaults (deepPallets depth).place)
      (deepPallets depth).files (deepPallets depth).place tables := by
  obtain ⟨value, known⟩ := exists_value_nestedLists depth
  let pairs (pallet : Text) : List (Text × Value) :=
    if pallet = "donations" then [("A", value)]
    else if pallet = "moderation" then [("A", .int 1)]
    else []
  refine ⟨Settings.defaultPallets.map fun pallet =>
    (pallet, .ofPairs (pairs pallet)), ?_, ?_, ?_, ?_⟩
  · simp [Function.comp_def, Settings.defaults, SettingsRequest.initial]
  · intro source listed
    obtain ⟨pallet, member, rfl⟩ := List.mem_map.mp listed
    refine ⟨deepMembers depth pallet, pairs pallet,
      holdsMembers_deepPallets depth pallet member, ?_, rfl⟩
    unfold deepMembers
    simp only [pairs]
    split
    · have key : Json.unquote? ['A'] = some ['A'] := by rfl
      simp only [Json.Tree.pairs?, key, known, Option.bind_some,
        Option.map_some]
      rfl
    · split
      · rfl
      · rfl
  · have flat : (Merge.empty.addAll
        (Aggregation.seeds (Settings.defaults (deepPallets depth).place) ++
          Settings.defaultPallets.map fun pallet =>
            (pallet, .ofPairs (pairs pallet)))).table.toValue.nesting = 1 := by
      rfl
    rw [flat]
    decide
  · intro occupied
    cases occupied

variable {depth}

/-- The first pallet cannot be read if it is deeper than the reader reads. -/
theorem load_deepPallets (deep : 1023 ≤ depth) : ∃ error : TypesError,
    error.path = (Settings.defaults (deepPallets depth).place).palletPath
      "donations" ∧
    TypesFile.load (deepPallets depth).files (deepPallets depth).place
        ((Settings.defaults (deepPallets depth).place).palletPath
          "donations") = .error (.types error) := by
  have listed : Text.ofString "donations" ∈ Settings.defaultPallets := by
    decide
  have holds := holdsMembers_deepPallets depth _ listed
  cases loaded : TypesFile.load (deepPallets depth).files
      (deepPallets depth).place
      ((Settings.defaults (deepPallets depth).place).palletPath
        "donations") with
  | ok table =>
      obtain ⟨shallow, _⟩ := holds.load_eq_ok_iff.mp loaded
      have members : deepMembers depth "donations" =
          [(['A'], nestedLists depth)] := if_pos rfl
      rw [members, Json.Tree.nesting, Json.Tree.entriesNesting,
        nesting_nestedLists, Json.Tree.entriesNesting, Nat.max_zero,
        Json.readingDepth] at shallow
      omega
  | error failure =>
      rcases TypesFile.load_failure loaded with ⟨reason, rfl⟩ |
        ⟨defect, spoiled, _⟩
      · exact ⟨_, rfl, rfl⟩
      · have fits : ((Settings.defaults ⟨["scripts"], 0⟩).palletPath
            "donations").defect? = none := by decide
        exact nomatch fits.symm.trans spoiled

/-- So a run blames this pallet. -/
theorem run_deepPallets (deep : 1023 ≤ depth) : ∃ error : TypesError,
    error.path = (Settings.defaults (deepPallets depth).place).palletPath
      "donations" ∧
    (deepPallets depth).Ends ((deepPallets depth).run .standalone {})
      exitFailure [Start.standalone.failureRecord (.types error)] := by
  obtain ⟨error, path, failed⟩ := load_deepPallets deep
  refine ⟨error, path, ?_⟩
  have short : ¬(Settings.defaults
      ⟨["scripts"], 0⟩).outputPath.parent.isTooLong = true := by decide
  have here : (deepPallets depth).place.Exists (deepPallets depth).files :=
    exists_besidePallets _
  have listed : (Settings.defaults (deepPallets depth).place).pallets =
      Text.ofString "donations" :: Settings.defaultPallets.tail := rfl
  have collected : (Aggregation.collect
      (Settings.defaults (deepPallets depth).place) (deepPallets depth).files
      (deepPallets depth).place).2 = .error (.types error) := by
    rw [Aggregation.collect_eq_error_iff, listed, Aggregation.loadAll_cons,
      failed]
  exact run_ends_of_collect here (List.forall_mem_nil _) .standalone short
    collected

end

/-- A run can fail though everything seems ready, because of the limit of the
reader; and it can fail without blaming a types file, because of the limit for
paths. -/
theorem run_pastLimits :
    ((deepPallets 1023).place.Exists (deepPallets 1023).files ∧
      (∃ tables, SeemsReady (Settings.defaults (deepPallets 1023).place)
        (deepPallets 1023).files (deepPallets 1023).place tables) ∧
      ((deepPallets 1023).run .standalone {}).2 ≠ exitSuccess) ∧
    (below 2047).place.Exists (below 2047).files ∧
      ∀ error : TypesError,
        ¬(below 2047).Ends ((below 2047).run .standalone {}) exitFailure
          [Start.standalone.say .error
            ("Type aggregation failed: " ++ error.message)] := by
  obtain ⟨error, _, ends⟩ := run_deepPallets (Nat.le_refl 1023)
  refine ⟨⟨exists_besidePallets _, seemsReady_deepPallets 1023, ?_⟩,
    run_deepBelow.1, run_deepBelow.2.2⟩
  rw [ends.status_eq]
  decide

end PalletTypes.Session
