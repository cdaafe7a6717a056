import PalletTypes.Proofs.Aggregation.Landed
import PalletTypes.Proofs.TypesFile.RoundTrip

/-!
# Pallets merged beforehand

A summary of some pallets is a types file with the document of their merge, as
a writing would leave it.  A summary stands for its pallets: listed in their
place, it leads to the same collection and to the same run.  A file keeps such
a merge as it is, because all of it has been read from files.
-/

namespace PalletTypes.Aggregation

section

variable {settings : Settings} {files : FileSystem} {place : Place}

/-- Loaded sources are collected in their order. -/
theorem collect_of_areLoaded {sources : List (Text × TypeTable)}
    (loaded : AreLoaded settings files place sources) :
    (collect { settings with pallets := sources.map Prod.fst } files place).2 =
      .ok (merged settings sources) := by
  have loading : loadAll { settings with pallets := sources.map Prod.fst }
      files place (sources.map Prod.fst) = .ok sources :=
    loadAll_eq_ok_iff.mpr ⟨rfl, loaded⟩
  rw [collect_result, loading]
  rfl

/-- The document of a merge of files is decoded to that merge. -/
theorem decode_merge {sources : List (Text × TypeTable)} {bytes : ByteArray}
    (loaded : AreLoaded settings files place sources)
    (encoded : TypesFile.encode (Merge.empty.addAll sources).table =
      .ok bytes) :
    TypesFile.decode bytes = .ok (Merge.empty.addAll sources).table := by
  have distinct := Merge.hasDistinctKeys_addAll fun source member =>
    TypesFile.hasDistinctKeys_of_load (loaded source member)
  have storable := Merge.isStorable_addAll fun source member =>
    TypesFile.isStorable_of_load (loaded source member)
  rw [TypesFile.decode_document distinct encoded,
    TypeTable.onFile_of_isStorable storable]

/-- A summary of sources is collected in their place as they are. -/
theorem collect_of_summary {front middle back : List (Text × TypeTable)}
    {summary : Text} {bytes : ByteArray}
    (loaded : AreLoaded settings files place (front ++ middle ++ back))
    (encoded : TypesFile.encode (Merge.empty.addAll middle).table = .ok bytes)
    (stored : files.read place (settings.palletPath summary) = .ok bytes) :
    (collect
        { settings with
          pallets := (front.map Prod.fst) ++ [summary] ++ back.map Prod.fst }
        files place).2 = .ok (merged settings (front ++ middle ++ back)) := by
  have decoded : TypesFile.decode bytes =
      .ok (Merge.empty.addAll middle).table :=
    decode_merge (fun source member => loaded source (by simp [member])) encoded
  have summaryLoaded : TypesFile.load files place
      (settings.palletPath summary) = .ok (Merge.empty.addAll middle).table :=
    TypesFile.load_eq_ok_iff.mpr ⟨bytes, stored, decoded⟩
  have middleLoaded : AreLoaded settings files place middle :=
    fun source member => loaded source (by simp [member])
  have collected := collect_of_areLoaded loaded
  rw [List.map_append, List.map_append] at collected
  exact (collect_of_merged middleLoaded summaryLoaded _ _).trans collected

/-- A summary of pallets that is listed in their place leads to the same
collected table, the order of its names included, and to the same run. -/
theorem aggregate_of_summary (settings : Settings) (files : FileSystem)
    (place : Place) (tables : Text → TypeTable)
    (before middle after : List Text) (summary : Text) (bytes : ByteArray)
    (readable : ∀ pallet ∈ before ++ middle ++ after,
      TypesFile.load files place (settings.palletPath pallet) =
        .ok (tables pallet))
    (encoded : TypesFile.encode
      (Merge.empty.addAll (sourcesIn tables middle)).table = .ok bytes)
    (stored : files.read place (settings.palletPath summary) = .ok bytes) :
    let separate := { settings with pallets := before ++ middle ++ after }
    let joined := { settings with pallets := before ++ [summary] ++ after }
    (∃ table, (collect separate files place).2 = .ok table ∧
        (collect joined files place).2 = .ok table) ∧
      ∀ temporary,
        (aggregate joined files place temporary).result =
            (aggregate separate files place temporary).result ∧
          (aggregate joined files place temporary).files =
            (aggregate separate files place temporary).files := by
  intro separate joined
  have loaded : AreLoaded settings files place
      (sourcesIn tables before ++ sourcesIn tables middle ++
        sourcesIn tables after) := by
    have whole := areLoaded_sourcesIn_iff.mpr readable
    simpa only [sourcesIn, List.map_append] using whole
  have collected := collect_of_areLoaded loaded
  have collectedJoined := collect_of_summary loaded encoded stored
  simp only [List.map_append, map_fst_sourcesIn] at collected collectedJoined
  refine ⟨⟨_, collected, collectedJoined⟩, fun temporary => ?_⟩
  have same := collectedJoined.trans collected.symm
  exact aggregate_congr (by rfl) same temporary

end

/-- Settings that list a pallet twice, so that the first of the names it gives
stays in front of what is listed in between. -/
def overlapping : Settings :=
  { baseDir := .ofText "."
    pallets := []
    runtimeTypes := .ofPairs [("Rate", .float .undefined), ("X", .null)]
    customTypes := .empty
    logging := {} }

def overlappingTables (pallet : Text) : TypeTable :=
  if pallet = ("a" : Text) then .ofPairs [("X", .int 1), ("Y", .list [])]
  else if pallet = ("b" : Text) then .ofPairs [("Z", .null), ("X", .int 2)]
  else .ofPairs [("Y", .text "u8")]

/-- The merge of the pallets `a` and `b`. -/
def overlappingSummary : TypeTable :=
  (Merge.empty.addAll (sourcesIn overlappingTables ["a", "b"])).table

def overlappingFiles : FileSystem :=
  ⟨[(["scripts"], .directory), (["pallets"], .directory),
    (["pallets", "a"], .directory), (["pallets", "b"], .directory),
    (["pallets", "c"], .directory), (["pallets", "sum"], .directory),
    (["pallets", "a", "types.json"],
      .file FileSystem.publicMode "\x7b\"X\":1,\"Y\":[]\x7d".toUTF8),
    (["pallets", "b", "types.json"],
      .file FileSystem.publicMode "\x7b\"Z\":null,\"X\":2\x7d".toUTF8),
    (["pallets", "c", "types.json"],
      .file FileSystem.publicMode "\x7b\"Y\":\"u8\"\x7d".toUTF8),
    (["pallets", "sum", "types.json"],
      .file FileSystem.publicMode (TypesFile.document overlappingSummary))]⟩

theorem aggregate_of_summary_overlapping :
    ∃ table,
      (collect { overlapping with pallets := ["c", "a", "b", "c"] }
        overlappingFiles ⟨["scripts"], 0⟩).2 = .ok table ∧
      (collect { overlapping with pallets := ["c", "sum", "c"] }
        overlappingFiles ⟨["scripts"], 0⟩).2 = .ok table ∧
      table.names = (["Rate", "X", "Y", "Z"] : List Text) ∧
      table.get? "Y" = some (.text "u8") ∧
      table.get? "X" = some (.int 2) := by
  have readA : TypesFile.load overlappingFiles ⟨["scripts"], 0⟩
      (overlapping.palletPath "a") = .ok (overlappingTables "a") :=
    TypesFile.load_eq_ok_iff.mpr
      ⟨_, by rfl, TypesFile.decode_toUTF8 (by rfl)⟩
  have readB : TypesFile.load overlappingFiles ⟨["scripts"], 0⟩
      (overlapping.palletPath "b") = .ok (overlappingTables "b") :=
    TypesFile.load_eq_ok_iff.mpr
      ⟨_, by rfl, TypesFile.decode_toUTF8 (by rfl)⟩
  have readC : TypesFile.load overlappingFiles ⟨["scripts"], 0⟩
      (overlapping.palletPath "c") = .ok (overlappingTables "c") :=
    TypesFile.load_eq_ok_iff.mpr
      ⟨_, by rfl, TypesFile.decode_toUTF8 (by rfl)⟩
  have readable : ∀ pallet ∈
      (["c"] : List Text) ++ (["a", "b"] : List Text) ++ (["c"] : List Text),
      TypesFile.load overlappingFiles ⟨["scripts"], 0⟩
        (overlapping.palletPath pallet) = .ok (overlappingTables pallet) := by
    intro pallet listed
    simp only [List.mem_append, List.mem_cons, List.not_mem_nil,
      or_false] at listed
    rcases listed with (rfl | rfl | rfl) | rfl
    · exact readC
    · exact readA
    · exact readB
    · exact readC
  have encoded : TypesFile.encode overlappingSummary =
      .ok (TypesFile.document overlappingSummary) :=
    TypesFile.encode_eq_ok_iff.mpr ⟨by decide, rfl⟩
  obtain ⟨⟨table, separate, joined⟩, _⟩ := aggregate_of_summary overlapping
    overlappingFiles ⟨["scripts"], 0⟩ overlappingTables ["c"] ["a", "b"] ["c"]
    "sum" _ readable encoded (by rfl)
  have collected := collect_of_areLoaded
    (areLoaded_sourcesIn_iff.mpr readable)
  rw [map_fst_sourcesIn, separate, Except.ok.injEq] at collected
  subst collected
  refine ⟨_, separate, joined, ?_, ?_, ?_⟩
  · exact (Merge.names_addAll_empty _).trans (by rfl)
  · exact (Merge.get?_addAll_empty _ _).trans (by rfl)
  · exact (Merge.get?_addAll_empty _ _).trans (by rfl)

end PalletTypes.Aggregation
