import PalletTypes.Proofs.Aggregation.Sources
import PalletTypes.Proofs.TypesFile.Spelling
import PalletTypes.Proofs.Value.Expressible

/-!
# What can be read can be written, up to its depth

The reader goes deeper than the writer, and this is all that can go wrong
between the two: seeds that a file can express and pallets that have been read
merge to a table whose only defect is its nesting.  The nesting of the table is
that of the definitions that survive the merge, so a definition that a later
source replaces may be as deep as the reader allows.
-/

namespace PalletTypes

/-- A merge is nested more deeply than a bound if a definition that survives it
is. -/
theorem Merge.lt_nesting_iff {sources : List (Text × TypeTable)}
    {bound : Nat} :
    bound + 1 < (empty.addAll sources).table.toValue.nesting ↔
      ∃ name definition, Survives sources name definition ∧
        bound < definition.nesting := by
  have inMerge : ∀ name definition,
      (name, definition) ∈ (empty.addAll sources).table.entries ↔
        Survives sources name definition := by
    intro name definition
    rw [← Entries.get?_eq_some_iff (empty.addAll sources).table.distinct,
      ← lastDefinition?_eq_some_iff, ← get?_addAll_empty]
    rfl
  rw [TypeTable.toValue, Value.nesting, Nat.add_lt_add_iff_right,
    Value.lt_entriesNesting_iff]
  simp only [Prod.exists, inMerge]

namespace Aggregation

section

variable {settings : Settings} {files : FileSystem} {place : Place}

/-- What is collected from expressible seeds is expressible. -/
theorem isExpressible_of_loadAll {loaded : List (Text × TypeTable)}
    (runtime : settings.runtimeTypes.isExpressible = true)
    (custom : settings.customTypes.isExpressible = true)
    (loading : loadAll settings files place settings.pallets = .ok loaded) :
    (Merge.empty.addAll (seeds settings ++ loaded)).table.isExpressible =
      true :=
  Merge.isExpressible_addAll
    (forall_mem_sources (fun table => table.isExpressible = true) runtime
      custom (fun read => TypeTable.isExpressible_of_isStorable
        (TypesFile.isStorable_of_load read)) loading)

theorem encode_of_isExpressible {table : TypeTable}
    (expressible : table.isExpressible = true) :
    TypesFile.encode table =
      if table.toValue.nesting ≤ 254 then .ok (TypesFile.document table)
      else .error .depth := by
  rw [TypesFile.encode_eq, TypeTable.defect?_of_isExpressible expressible,
    Json.nestingDefect?]
  by_cases shallow : table.toValue.nesting ≤ Json.writingDepth
  · rw [if_pos shallow, if_pos (show _ ≤ 254 from shallow)]
  · rw [if_neg shallow, if_neg (show ¬_ ≤ 254 from shallow)]

/-- A run that collects a table with a defect ends with this defect. -/
theorem result_of_defect {table : TypeTable} {defect : Json.Defect}
    (collected : (collect settings files place).2 = .ok table)
    (defective : TypesFile.encode table = .error defect) (temporary : Text) :
    (aggregate settings files place temporary).result =
      .error (.types ⟨settings.outputPath, .unserializable defect⟩) := by
  simp [result_aggregate, collected, TypesFile.write, defective,
    TypesFile.failed, Except.map]

end

/-- A file that spells a mapping is loaded unless it is nested too deeply for
the reader. -/
theorem load_of_spells {files : FileSystem} {place : Place} {path : Path}
    {string : String} {tree : Json.Tree} {entries : List (Text × Value)}
    (contents : files.read place path = .ok string.toUTF8)
    (spelled : Json.Spells string.toList tree)
    (mapping : tree.value? = some (.mapping entries)) :
    (∃ table, TypesFile.load files place path = .ok table) ↔
      tree.nesting ≤ 1024 := by
  rw [show 1024 = Json.readingDepth from rfl]
  simp [TypesFile.load_eq_ok_iff_of_spells contents spelled, mapping]

/-- Seeds that a file can express and pallets that have been read merge to a
table that can be written unless a definition that survives the merge makes it
nest more than 254 containers; the run then blames the output for this and for
nothing else.  The pallets themselves may nest up to 1024. -/
theorem encode_fails_iff_of_collect :
    (Settings.defaultRuntimeTypes.isExpressible = true ∧
      Settings.defaultCustomTypes.isExpressible = true) ∧
    (∀ (settings : Settings) (files : FileSystem) (place : Place)
        (table : TypeTable),
      settings.runtimeTypes.isExpressible = true →
      settings.customTypes.isExpressible = true →
      (collect settings files place).2 = .ok table →
      ∃ loaded, loadAll settings files place settings.pallets = .ok loaded ∧
        ((∃ defect, TypesFile.encode table = .error defect) ↔
          ∃ name definition,
            Survives (seeds settings ++ loaded) name definition ∧
              254 < 1 + definition.nesting) ∧
        ∀ defect, TypesFile.encode table = .error defect →
          defect.message = "Recursion limit reached" ∧
          ∀ temporary, ∃ error,
            (aggregate settings files place temporary).result =
              .error (.types error) ∧
            error.path = settings.outputPath ∧
            error.reason = .unserializable defect ∧
            (Failure.types error).className = "TypesWriteError") ∧
    (∀ (files : FileSystem) (place : Place) (path : Path) (string : String)
        (tree : Json.Tree) (entries : List (Text × Value)),
      files.read place path = .ok string.toUTF8 →
      Json.Spells string.toList tree →
      tree.value? = some (.mapping entries) →
      ((∃ table, TypesFile.load files place path = .ok table) ↔
        tree.nesting ≤ 1024)) := by
  refine ⟨by decide, ?_, fun _ _ _ _ _ _ => load_of_spells⟩
  intro settings files place table runtime custom collected
  obtain ⟨loaded, loading, rfl⟩ := collect_eq_ok_iff.mp collected
  have encoded := encode_of_isExpressible
    (isExpressible_of_loadAll runtime custom loading)
  have onlyDepth : ∀ defect, TypesFile.encode
      (Merge.empty.addAll (seeds settings ++ loaded)).table =
        .error defect → defect = .depth := by
    intro defect failed
    rw [encoded] at failed
    split at failed
    · exact nomatch failed
    · exact (Except.error.inj failed).symm
  refine ⟨loaded, loading, ?_, ?_⟩
  · have deeper : ∀ nesting, 254 < 1 + nesting ↔ 253 < nesting := by omega
    simp only [deeper, ← Merge.lt_nesting_iff]
    rw [encoded]
    split
    case isTrue shallow => simpa using shallow
    case isFalse deep => simpa using deep
  · intro defect failed
    refine ⟨by rw [onlyDepth defect failed]; rfl, fun temporary => ?_⟩
    exact ⟨_, result_of_defect collected failed temporary, rfl, rfl, rfl⟩

/-! ## A deep definition that is replaced -/

/-- A list in a list, and so on. -/
def deepList : Nat → Value
  | 0 => .list []
  | depth + 1 => .list [deepList depth]

theorem isExpressible_deepList (depth : Nat) :
    (deepList depth).isExpressible = true := by
  induction depth with
  | zero => rfl
  | succ depth ih =>
      simp [deepList, Value.isExpressible, Value.itemsAreExpressible, ih]

theorem nesting_deepList (depth : Nat) :
    (deepList depth).nesting = depth + 1 := by
  induction depth with
  | zero => rfl
  | succ depth ih =>
      simp [deepList, Value.nesting, Value.itemsNesting, ih]

/-- Seeds with a definition that is too deep and with a number that is not
finite. -/
def buried (pallets : List Text) : Settings :=
  { baseDir := .ofText ""
    pallets
    runtimeTypes := .ofPairs [("X", deepList 300)]
    customTypes := .ofPairs [("Limit", .float (.infinity true))]
    logging := {} }

/-- A pallet that replaces the deep definition. -/
def buriedFiles : FileSystem :=
  ⟨[(["scripts"], .directory), (["pallets"], .directory),
    (["pallets", "a"], .directory),
    (["pallets", "a", "types.json"],
      .file FileSystem.publicMode "\x7b\"X\": [1]\x7d".toUTF8)]⟩

def buriedTables : List (Text × TypeTable) :=
  [("a", .ofPairs [("X", .list [.int 1])])]

theorem isExpressible_runtimeTypes_buried (pallets : List Text) :
    (buried pallets).runtimeTypes.isExpressible = true := by
  have whole : (buried pallets).runtimeTypes.entries =
      ([("X", deepList 300)] : List (Text × Value)) := rfl
  rw [TypeTable.isExpressible, whole, Value.entriesAreExpressible,
    isExpressible_deepList]
  rfl

/-- Without pallets nothing replaces the deep definition. -/
theorem survives_buried :
    Survives (seeds (buried [])) "X" (deepList 300) :=
  ⟨[], _, [(Settings.customSource, (buried []).customTypes)], rfl, rfl,
    by decide⟩

theorem loadAll_buried :
    loadAll (buried ["a"]) buriedFiles ⟨["scripts"], 0⟩ (buried ["a"]).pallets =
      .ok buriedTables := by
  have read : TypesFile.load buriedFiles ⟨["scripts"], 0⟩
      ((buried ["a"]).palletPath "a") =
        .ok (.ofPairs [("X", .list [.int 1])]) :=
    TypesFile.load_eq_ok_iff.mpr
      ⟨_, by rfl, TypesFile.decode_toUTF8 (by rfl)⟩
  refine loadAll_eq_ok_iff.mpr ⟨rfl, ?_⟩
  simpa [buriedTables] using read

theorem shallow_of_survives_buried {name : Text} {definition : Value}
    (survives : Survives (seeds (buried ["a"]) ++ buriedTables) name
      definition) : definition.nesting ≤ 1 := by
  have single : ∀ (other : Text) (value : Value),
      (TypeTable.ofPairs [(other, value)]).get? name =
        if other = name then some value else none := fun _ _ => rfl
  rw [← lastDefinition?_eq_some_iff] at survives
  simp only [seeds, buried, buriedTables, List.cons_append, List.nil_append,
    lastDefinition?_cons, single] at survives
  have nothing : lastDefinition? name [] = none := rfl
  rw [nothing, Option.none_or] at survives
  by_cases replaced : Text.ofString "X" = name
  · simp only [replaced, if_true, Option.some_or, Option.some.injEq]
      at survives
    subst survives
    decide
  · simp only [replaced, if_false, Option.none_or, Option.or_none] at survives
    by_cases seeded : Text.ofString "Limit" = name
    · rw [if_pos seeded, Option.some.injEq] at survives
      subst survives
      decide
    · simp [seeded] at survives

theorem encode_fails_iff_of_collect_buried :
    (∃ table, (collect (buried ["a"]) buriedFiles ⟨["scripts"], 0⟩).2 =
        .ok table ∧ ∃ bytes, TypesFile.encode table = .ok bytes) ∧
      (∀ temporary, ∃ error,
        (aggregate (buried []) buriedFiles ⟨["scripts"], 0⟩ temporary).result =
          .error (.types error) ∧
        error.path = (buried []).outputPath) ∧
      ∃ table, TypesFile.load buriedFiles ⟨["scripts"], 0⟩
        (.ofText "../pallets/a/types.json") = .ok table := by
  obtain ⟨_, written, loads⟩ := encode_fails_iff_of_collect
  have runtime := isExpressible_runtimeTypes_buried
  have custom : ∀ pallets,
      (buried pallets).customTypes.isExpressible = true := fun _ => by rfl
  refine ⟨?_, ?_, ?_⟩
  · have collected := collect_result (buried ["a"]) buriedFiles
      ⟨["scripts"], 0⟩
    rw [loadAll_buried, Except.map] at collected
    obtain ⟨loaded, loading, fails_iff, _⟩ := written (buried ["a"])
      buriedFiles ⟨["scripts"], 0⟩ _ (runtime _) (custom _) collected
    rw [loadAll_buried, Except.ok.injEq] at loading
    subst loading
    refine ⟨_, collected, ?_⟩
    cases encoded : TypesFile.encode
        (Merge.empty.addAll (seeds (buried ["a"]) ++ buriedTables)).table with
    | ok bytes => exact ⟨bytes, rfl⟩
    | error defect =>
        obtain ⟨name, definition, survives, deep⟩ :=
          fails_iff.mp ⟨defect, encoded⟩
        have shallow := shallow_of_survives_buried survives
        omega
  · have collected : ∃ table,
        (collect (buried []) buriedFiles ⟨["scripts"], 0⟩).2 =
          .ok table := ⟨_, rfl⟩
    obtain ⟨table, collected⟩ := collected
    obtain ⟨loaded, loading, fails_iff, blames⟩ := written (buried [])
      buriedFiles ⟨["scripts"], 0⟩ table (runtime _) (custom _) collected
    have survives : Survives (seeds (buried []) ++ loaded) "X"
        (deepList 300) := by
      cases loading
      exact survives_buried
    have deep : 254 < 1 + (deepList 300).nesting := by
      rw [nesting_deepList]
      decide
    obtain ⟨defect, failed⟩ := fails_iff.mpr ⟨_, _, survives, deep⟩
    intro temporary
    obtain ⟨error, result, path, _⟩ := (blames defect failed).2 temporary
    exact ⟨error, result, path⟩
  · exact (loads buriedFiles ⟨["scripts"], 0⟩ _ "\x7b\"X\": [1]\x7d"
      (.mapping [(['X'], .list [.number ['1']])]) [("X", .list [.int 1])]
      (by rfl) (by rfl) (by rfl)).mpr (by decide)

end Aggregation

end PalletTypes
