import PalletTypes.Proofs.Json.Recognition
import PalletTypes.Proofs.Path.Defects
import PalletTypes.Proofs.TypesFile.Document
import PalletTypes.Proofs.TypesFile.Loading

/-!
# How a reading of a types file ends

A reading ends with a table, or with an error for one of three reasons.  What
the file holds, told by the grammar of documents, decides which it is, and the
error shows its path, the reason and what it was caused by.
-/

namespace PalletTypes

namespace Json

/-- The bytes that are read as a value are the documents with the value. -/
theorem ofBytes?_eq_some_iff {bytes : ByteArray} {value : Value} :
    ofBytes? bytes = some value ↔ IsDocument bytes value := by
  constructor
  · intro read
    obtain ⟨string, decoded, read⟩ := Option.bind_eq_some_iff.mp read
    refine ⟨string.toList, ?_, ofChars?_eq_some_iff_isItem.mp read⟩
    unfold String.fromUTF8? at decoded
    split at decoded
    case isTrue valid =>
      cases decoded
      rw [String.ofList_toList]
      rfl
    case isFalse => exact nomatch decoded
  · rintro ⟨chars, rfl, spelled⟩
    rw [TypesFile.ofBytes?_toUTF8, String.toList_ofList]
    exact ofChars?_eq_some_iff_isItem.mpr spelled

/-- Bytes have at most one value. -/
theorem IsDocument.unique {bytes : ByteArray} {value other : Value}
    (isDocument : IsDocument bytes value) (same : IsDocument bytes other) :
    value = other := by
  rw [← ofBytes?_eq_some_iff] at isDocument same
  rw [isDocument] at same
  exact Option.some.inj same

end Json

theorem ValueKind.name_injective {left right : ValueKind}
    (same : left.name = right.name) : left = right := by
  cases left <;> cases right <;> first | rfl | exact absurd same (by decide)

theorem FileError.message_injective {left right : FileError}
    (same : left.message = right.message) : left = right := by
  cases left <;> cases right <;> first | rfl | exact absurd same (by decide)

namespace TypesFile

/-- The ways in which a reading can end. -/
inductive ReadEnding where
  | loaded (table : TypeTable)
  /-- The document is no mapping. -/
  | otherKind (kind : ValueKind)
  | noDocument
  | unreadable (cause : FileError)

/-- The ending of a reading, as far as the file at the path decides it. -/
inductive ReadEnding.IsDue (files : FileSystem) (place : Place) (path : Path) :
    ReadEnding → Prop where
  | loaded {bytes : ByteArray} {pairs : List (Text × Value)}
      {table : TypeTable} (contents : files.read place path = .ok bytes)
      (object : Json.IsObject bytes pairs)
      (left : Json.Leaves pairs table.entries) :
      IsDue files place path (.loaded table)
  | otherKind {bytes : ByteArray} {value : Value}
      (contents : files.read place path = .ok bytes)
      (document : Json.IsDocument bytes value) (other : value.kind ≠ .mapping) :
      IsDue files place path (.otherKind value.kind)
  | noDocument {bytes : ByteArray}
      (contents : files.read place path = .ok bytes)
      (broken : ∀ value, ¬Json.IsDocument bytes value) :
      IsDue files place path .noDocument
  | unreadable {cause : FileError}
      (refused : files.read place path = .error (.refused cause)) :
      IsDue files place path (.unreadable cause)

/-- The result is an error of this class about the path, with this reason and a
cause of this class; its message is the reason and the path. -/
def Raises (result : Except Failure TypeTable) (path : Path)
    (className reason : String) (cause : Option String) : Prop :=
  ∃ error : TypesError, result = .error (.types error) ∧ error.path = path ∧
    error.reason.family.className = className ∧
    error.reason.message = reason ∧ error.reason.causeClass = cause ∧
    error.message = reason ++ ": " ++ path.text

/-- The result shows the ending. -/
def ReadEnding.IsShown (path : Path) (result : Except Failure TypeTable) :
    ReadEnding → Prop
  | .loaded table => result = .ok table
  | .otherKind kind =>
      Raises result path "TypesParseError"
        ("Types file must contain a JSON object, got " ++ kind.name) none
  | .noDocument =>
      ∃ details : String, Raises result path "TypesParseError"
        ("Invalid JSON in types file (" ++ details ++ ")")
        (some "JSONDecodeError")
  | .unreadable cause =>
      Raises result path "TypesReadError"
        ("Cannot read types file (" ++ cause.message ++ ")")
        (some cause.className)

theorem raises_iff {result : Except Failure TypeTable} {path : Path}
    {className reason : String} {cause : Option String} :
    Raises result path className reason cause ↔
      ∃ other : Reason, result = .error (.types ⟨path, other⟩) ∧
        other.family.className = className ∧ other.message = reason ∧
        other.causeClass = cause := by
  constructor
  · rintro ⟨⟨_, other⟩, rfl, rfl, family, message, caused, -⟩
    exact ⟨other, rfl, family, message, caused⟩
  · rintro ⟨other, rfl, family, rfl, caused⟩
    exact ⟨⟨path, other⟩, rfl, rfl, family, rfl, caused, rfl⟩

variable {path : Path} {result : Except Failure TypeTable}

theorem isShown_otherKind_iff {kind : ValueKind} :
    (ReadEnding.otherKind kind).IsShown path result ↔
      result = .error (.types ⟨path, .notMapping kind⟩) := by
  rw [ReadEnding.IsShown, raises_iff]
  constructor
  · rintro ⟨reason, rfl, -, message, caused⟩
    cases reason
    case notMapping other =>
      have same : other = kind :=
        ValueKind.name_injective ((String.append_right_inj _).mp message)
      rw [same]
    all_goals exact nomatch caused
  · rintro rfl
    exact ⟨.notMapping kind, rfl, rfl, rfl, rfl⟩

theorem isShown_noDocument_iff :
    ReadEnding.noDocument.IsShown path result ↔
      ∃ place, result = .error (.types ⟨path, .malformed place⟩) := by
  simp only [ReadEnding.IsShown, raises_iff]
  constructor
  · rintro ⟨details, reason, rfl, family, -, caused⟩
    cases reason
    case malformed place => exact ⟨place, rfl⟩
    case notMapping => exact nomatch caused
    all_goals
      exact absurd family (by simp [Reason.family, ErrorFamily.className])
  · rintro ⟨place, rfl⟩
    refine ⟨"malformed document: " ++ place.text, .malformed place, rfl, rfl,
      ?_, rfl⟩
    have whole : ∀ text : String,
        "Invalid JSON in types file (malformed document: " ++ text ++ ")" =
          "Invalid JSON in types file (" ++
            ("malformed document: " ++ text) ++ ")" := by
      intro text
      rw [← String.append_assoc]
      rfl
    exact whole place.text

theorem isShown_unreadable_iff {cause : FileError} :
    (ReadEnding.unreadable cause).IsShown path result ↔
      result = .error (.types ⟨path, .unreadable cause⟩) := by
  rw [ReadEnding.IsShown, raises_iff]
  constructor
  · rintro ⟨reason, rfl, family, message, -⟩
    cases reason
    case unreadable other =>
      have same : other = cause := by
        apply FileError.message_injective
        exact (String.append_right_inj _).mp
          ((String.append_left_inj _).mp message)
      rw [same]
    all_goals
      exact absurd family (by simp [Reason.family, ErrorFamily.className])
  · rintro rfl
    exact ⟨.unreadable cause, rfl, rfl, rfl, rfl⟩

/-- The ending that a result shows, if it shows one. -/
def ReadEnding.ofResult? : Except Failure TypeTable → Option ReadEnding
  | .ok table => some (.loaded table)
  | .error (.types ⟨_, .notMapping kind⟩) => some (.otherKind kind)
  | .error (.types ⟨_, .malformed _⟩) => some .noDocument
  | .error (.types ⟨_, .unreadable cause⟩) => some (.unreadable cause)
  | .error _ => none

theorem ofResult?_of_isShown {ending : ReadEnding}
    (isShown : ending.IsShown path result) :
    ReadEnding.ofResult? result = some ending := by
  cases ending with
  | loaded table => exact congrArg ReadEnding.ofResult? isShown
  | otherKind kind =>
      exact congrArg ReadEnding.ofResult? (isShown_otherKind_iff.mp isShown)
  | noDocument =>
      obtain ⟨place, same⟩ := isShown_noDocument_iff.mp isShown
      exact congrArg ReadEnding.ofResult? same
  | unreadable cause =>
      exact congrArg ReadEnding.ofResult? (isShown_unreadable_iff.mp isShown)

/-- A result shows one ending at most. -/
theorem ReadEnding.IsShown.unique {ending other : ReadEnding}
    (isShown : ending.IsShown path result)
    (same : other.IsShown path result) : ending = other :=
  Option.some.inj ((ofResult?_of_isShown isShown).symm.trans
    (ofResult?_of_isShown same))

/-! ## What the file decides -/

theorem decode_eq_error_iff {bytes : ByteArray} {reason : Reason} :
    decode bytes = .error reason ↔
      (∀ value, ¬Json.IsDocument bytes value) ∧
          reason = .malformed (Json.defectPlace bytes) ∨
        ∃ value, Json.IsDocument bytes value ∧ value.kind ≠ .mapping ∧
          reason = .notMapping value.kind := by
  simp only [← Json.ofBytes?_eq_some_iff]
  unfold decode
  cases Json.ofBytes? bytes with
  | none => simp [eq_comm]
  | some value => cases value <;> simp [Value.kind, eq_comm]

variable {files : FileSystem} {place : Place}

theorem read_result (files : FileSystem) (place : Place) (path : Path) :
    (read files place path).2 = load files place path := by
  unfold read
  cases load files place path <;> rfl

theorem load_eq_types_iff {reason : Reason} :
    load files place path = .error (.types ⟨path, reason⟩) ↔
      (∃ cause, files.read place path = .error (.refused cause) ∧
          reason = .unreadable cause) ∨
        ∃ bytes, files.read place path = .ok bytes ∧
          decode bytes = .error reason := by
  unfold load
  cases files.read place path with
  | error error => cases error <;> simp [eq_comm]
  | ok bytes =>
      cases decoded : decode bytes with
      | error other => simp [decoded, eq_comm]
      | ok table => simp [decoded]

/-- A table is loaded from an object, with what its members leave. -/
theorem load_eq_ok_iff_isObject {table : TypeTable} :
    load files place path = .ok table ↔
      ∃ bytes pairs, files.read place path = .ok bytes ∧
        Json.IsObject bytes pairs ∧ Json.Leaves pairs table.entries := by
  simp only [load_eq_ok_iff, decode_eq_ok_iff, Json.ofBytes?_eq_some_iff,
    Json.isDocument_mapping_iff]
  constructor
  · rintro ⟨bytes, contents, entries, ⟨pairs, object, left⟩, rfl⟩
    refine ⟨bytes, pairs, contents, object, ?_⟩
    have same : (TypeTable.ofPairs entries).entries = entries := by
      rw [left.eq_ofPairs]
      exact congrArg TypeTable.entries
        (TypeTable.ofPairs_entries (.ofPairs pairs))
    rwa [same]
  · rintro ⟨bytes, pairs, contents, object, left⟩
    exact ⟨bytes, contents, table.entries, ⟨pairs, object, left⟩,
      (TypeTable.ofPairs_entries table).symm⟩

/-- A reading shows the ending that is due. -/
theorem isShown_iff_isDue (ending : ReadEnding) :
    ending.IsShown path (load files place path) ↔
      ending.IsDue files place path := by
  cases ending with
  | loaded table =>
      rw [ReadEnding.IsShown, load_eq_ok_iff_isObject]
      constructor
      · rintro ⟨bytes, pairs, contents, object, left⟩
        exact .loaded contents object left
      · intro isDue
        cases isDue with
        | loaded contents object left =>
            exact ⟨_, _, contents, object, left⟩
  | otherKind kind =>
      rw [isShown_otherKind_iff, load_eq_types_iff]
      constructor
      · rintro (⟨cause, -, other⟩ | ⟨bytes, contents, decoded⟩)
        · exact nomatch other
        · rcases decode_eq_error_iff.mp decoded with
            ⟨-, other⟩ | ⟨value, document, other, same⟩
          · exact nomatch other
          · cases same
            exact .otherKind contents document other
      · intro isDue
        cases isDue with
        | otherKind contents document other =>
            exact .inr ⟨_, contents, decode_eq_error_iff.mpr
              (.inr ⟨_, document, other, rfl⟩)⟩
  | noDocument =>
      simp only [isShown_noDocument_iff, load_eq_types_iff]
      constructor
      · rintro ⟨position, ⟨cause, -, other⟩ | ⟨bytes, contents, decoded⟩⟩
        · exact nomatch other
        · rcases decode_eq_error_iff.mp decoded with
            ⟨broken, -⟩ | ⟨value, -, -, other⟩
          · exact .noDocument contents broken
          · exact nomatch other
      · intro isDue
        cases isDue with
        | noDocument contents broken =>
            exact ⟨_, .inr ⟨_, contents, decode_eq_error_iff.mpr
              (.inl ⟨broken, rfl⟩)⟩⟩
  | unreadable cause =>
      rw [isShown_unreadable_iff, load_eq_types_iff]
      constructor
      · rintro (⟨cause, refused, same⟩ | ⟨bytes, -, decoded⟩)
        · cases same
          exact .unreadable refused
        · rcases decode_eq_error_iff.mp decoded with
            ⟨-, other⟩ | ⟨value, -, -, other⟩ <;> exact nomatch other
      · intro isDue
        cases isDue with
        | unreadable refused => exact .inl ⟨cause, refused, rfl⟩

/-- Where the path has an encoding, some ending is due. -/
theorem exists_isDue (fits : ∀ point ∈ path.text, ¬point.IsUnfit) :
    ∃ ending : ReadEnding, ending.IsDue files place path := by
  cases contents : files.read place path with
  | error error =>
      cases error with
      | defective defect =>
          have spoiled := FileSystem.read_eq_defective_iff.mp contents
          rw [Path.defect?_eq_none_iff_text.mpr fits] at spoiled
          exact nomatch spoiled
      | refused cause => exact ⟨.unreadable cause, .unreadable contents⟩
  | ok bytes =>
      by_cases document : ∃ value, Json.IsDocument bytes value
      · obtain ⟨value, document⟩ := document
        by_cases isMapping : value.kind = .mapping
        · cases value <;> cases isMapping
          obtain ⟨pairs, object, left⟩ :=
            Json.isDocument_mapping_iff.mp document
          refine ⟨.loaded (.ofPairs pairs), .loaded contents object ?_⟩
          rw [left.eq_ofPairs] at left
          exact left
        · exact ⟨.otherKind value.kind, .otherKind contents document isMapping⟩
      · exact ⟨.noDocument, .noDocument contents
          fun value isDocument => document ⟨value, isDocument⟩⟩

/-- A reading of a path that has an encoding ends in exactly one of the four
ways.  It is the one that the file decides: the table of an object, in which
every key has the place of its first occurrence and the value of its last one,
and otherwise an error that blames the path and says whether the document is
of another kind, there is no document, or the file is refused. -/
theorem read_ends (files : FileSystem) (place : Place) (path : Path)
    (fits : ∀ point ∈ path.text, ¬point.IsUnfit) :
    (∃! ending : ReadEnding, ending.IsShown path (read files place path).2) ∧
      ∀ ending : ReadEnding, ending.IsShown path (read files place path).2 ↔
        ending.IsDue files place path := by
  simp only [read_result]
  refine ⟨?_, isShown_iff_isDue⟩
  obtain ⟨ending, isDue⟩ := exists_isDue fits
  have isShown := (isShown_iff_isDue ending).mpr isDue
  exact ⟨ending, isShown, fun other same => same.unique isShown⟩

/-- A file whose only mapping repeats a key. -/
def repeatingFiles : FileSystem :=
  ⟨[(["types.json"], .file FileSystem.publicMode
    "\x7b\"b\":1, \"a\":[25] ,\"b\":null\x7d\n".toUTF8)]⟩

theorem read_ends_repeating :
    (∀ point ∈ (Path.ofText "types.json").text, ¬point.IsUnfit) ∧
      (ReadEnding.loaded (.ofPairs [("b", .null), ("a", .list [.int 25])])).IsDue
        repeatingFiles .top (.ofText "types.json") := by
  have fits : ∀ point ∈ (Path.ofText "types.json").text, ¬point.IsUnfit := by
    unfold CodePoint.IsUnfit
    decide
  have loaded : load repeatingFiles .top (.ofText "types.json") =
      .ok (.ofPairs [("b", .null), ("a", .list [.int 25])]) :=
    load_eq_ok_iff.mpr ⟨_, by rfl, decode_toUTF8 (by rfl)⟩
  have ends := read_ends repeatingFiles .top (.ofText "types.json") fits
  rw [read_result, loaded] at ends
  exact ⟨fits, (ends.2 (.loaded _)).mp rfl⟩

/-- A reading of a lone surrogate, which is no NUL, ends in none of these
ways. -/
theorem noEnding_surrogate :
    let path := Path.ofText [.surrogate 0]
    CodePoint.scalar '\x00' ∉ path.text ∧
      ∀ ending : ReadEnding,
        ¬ending.IsShown path (read .empty .top path).2 := by
  refine ⟨by decide, ?_⟩
  intro ending isShown
  have none : ReadEnding.ofResult?
      (read .empty .top (.ofText [.surrogate 0])).2 = none := by rfl
  rw [ofResult?_of_isShown isShown] at none
  exact nomatch none

end TypesFile

end PalletTypes
