import PalletTypes.Proofs.Aggregation.Landed
import PalletTypes.Proofs.FileSystem.Refilling
import PalletTypes.Proofs.Refreshing
import PalletTypes.Proofs.TypesFile.RoundTrip
import PalletTypes.Proofs.TypesFile.Temporary

/-!
# Feeding the output back

The bytes that a run has written can be given to it again as types files of
pallets: of pallets that it has read before, and of others that are put
anywhere between them, any number of times.  The next run then writes the same
bytes.

A pallet with these bytes is read with the merged table, as a file keeps it.
In the merge it stands for a source that it replaces or, if it is new, for a
source without names.
-/

namespace PalletTypes

/-- The second list is the first one with further members put in anywhere. -/
inductive Interspersed {α : Type} (isFurther : α → Prop) :
    List α → List α → Prop
  | nil : Interspersed isFurther [] []
  | kept (member : α) {list longer : List α} :
      Interspersed isFurther list longer →
        Interspersed isFurther (member :: list) (member :: longer)
  | further (member : α) {list longer : List α} :
      isFurther member → Interspersed isFurther list longer →
        Interspersed isFurther list (member :: longer)

theorem Interspersed.refl {α : Type} (isFurther : α → Prop) (list : List α) :
    Interspersed isFurther list list := by
  induction list with
  | nil => exact .nil
  | cons member list ih => exact .kept member ih

namespace TypesFile

/-- A table that could be loaded is loaded from files that may have been
filled anew as it was, or as the table of the new bytes. -/
theorem load_of_refilled {files later : FileSystem} {place : Place}
    {path : Path} {bytes : ByteArray} {table whole : TypeTable}
    (refilled : files.Refilled bytes later)
    (decoded : decode bytes = .ok whole)
    (loaded : load files place path = .ok table) :
    load later place path = .ok table ∨
      load later place path = .ok whole := by
  obtain ⟨content, before, decodedBefore⟩ := load_eq_ok_iff.mp loaded
  rcases refilled.read before with same | filled
  · exact Or.inl (load_eq_ok_iff.mpr ⟨content, same, decodedBefore⟩)
  · exact Or.inr (load_eq_ok_iff.mpr ⟨bytes, filled, decoded⟩)

end TypesFile

namespace Aggregation

section

variable {settings : Settings} {files : FileSystem} {place : Place}

/-- The types file of the pallet holds the bytes. -/
def HoldsBytes (settings : Settings) (files : FileSystem) (place : Place)
    (bytes : ByteArray) (pallet : Text) : Prop :=
  files.read place (settings.palletPath pallet) = .ok bytes

/-- Pallets that hold the bytes of the whole table are loaded with it, and all
others are loaded as before. -/
theorem loadAll_extended {later : FileSystem} {bytes : ByteArray}
    {whole : TypeTable} {pallets extended : List Text}
    {loaded : List (Text × TypeTable)}
    (refilled : files.Refilled bytes later)
    (decoded : TypesFile.decode bytes = .ok whole)
    (extension : Interspersed (HoldsBytes settings later place bytes) pallets
      extended)
    (success : loadAll settings files place pallets = .ok loaded) :
    ∃ padded refreshed, Padded loaded padded ∧
      loadAll settings later place extended = .ok refreshed ∧
      Refreshed whole padded refreshed := by
  induction extension generalizing loaded with
  | nil =>
      cases success
      exact ⟨[], [], .nil, rfl, .nil⟩
  | kept pallet extension ih =>
      obtain ⟨table, tail, read, tailLoaded, rfl⟩ :=
        loadAll_cons_eq_ok_iff.mp success
      obtain ⟨padded, refreshed, padding, again, refresh⟩ := ih tailLoaded
      refine ⟨(pallet, table) :: padded, ?_⟩
      rcases TypesFile.load_of_refilled refilled decoded read with
        same | replaced
      · exact ⟨(pallet, table) :: refreshed, .kept _ padding,
          loadAll_cons_eq_ok_iff.mpr ⟨table, refreshed, same, again, rfl⟩,
          .kept _ refresh⟩
      · exact ⟨(pallet, whole) :: refreshed, .kept _ padding,
          loadAll_cons_eq_ok_iff.mpr ⟨whole, refreshed, replaced, again, rfl⟩,
          .replaced pallet table refresh⟩
  | further pallet holds extension ih =>
      obtain ⟨padded, refreshed, padding, again, refresh⟩ := ih success
      have read : TypesFile.load later place (settings.palletPath pallet) =
          .ok whole := TypesFile.load_eq_ok_iff.mpr ⟨bytes, holds, decoded⟩
      exact ⟨(pallet, .empty) :: padded, (pallet, whole) :: refreshed,
        .blank pallet padding,
        loadAll_cons_eq_ok_iff.mpr ⟨whole, refreshed, read, again, rfl⟩,
        .replaced pallet .empty refresh⟩

/-- The merged table repeats no key, since nothing that is read does. -/
theorem hasDistinctKeys_merged {loaded : List (Text × TypeTable)}
    (runtime : settings.runtimeTypes.hasDistinctKeys = true)
    (custom : settings.customTypes.hasDistinctKeys = true)
    (loading : loadAll settings files place settings.pallets = .ok loaded) :
    (merged settings loaded).hasDistinctKeys = true :=
  Merge.hasDistinctKeys_addAll
    (forall_mem_sources (fun table => table.hasDistinctKeys = true) runtime
      custom TypesFile.hasDistinctKeys_of_load loading)

/-- A file keeps the same of what is merged then. -/
theorem onFile_merged_extended {loaded padded refreshed : List (Text × TypeTable)}
    (padding : Padded loaded padded)
    (refresh : Refreshed (merged settings loaded).onFile padded refreshed) :
    (merged settings refreshed).onFile = (merged settings loaded).onFile := by
  have sameTable : merged settings padded = merged settings loaded :=
    padding.table_addAll (seeds settings)
  rw [← sameTable] at refresh ⊢
  exact (refresh.append_left (seeds settings)).onFile_addAll

/-- The next run stages the same document and moves it to the same target. -/
theorem landed_extended {first second : Text} {later : FileSystem}
    {loaded : List (Text × TypeTable)} {bytes : ByteArray} {directory : Path}
    {location target : Location} {extended : List Text}
    (runtime : settings.runtimeTypes.hasDistinctKeys = true)
    (custom : settings.customTypes.hasDistinctKeys = true)
    (isTemporary : TypesFile.IsTemporaryName first)
    (landed : Landed settings files place first loaded bytes directory
      location target)
    (refilled : (files.publish target bytes).Refilled bytes later)
    (extension : Interspersed (HoldsBytes settings later place bytes)
      settings.pallets extended)
    (pick : TypesFile.MayPick later place settings.outputPath second) :
    ∃ loaded location,
      Landed { settings with pallets := extended } later place second loaded
        bytes directory location target := by
  obtain ⟨loading, staged, landing⟩ := landed
  have noDirectory := FileSystem.not_directory_of_landing landing
  have fromStart : files.Refilled bytes later :=
    (FileSystem.Refilled.put_file noDirectory _).trans refilled
  have decoded := TypesFile.decode_document
    (hasDistinctKeys_merged runtime custom loading) staged.encoded
  obtain ⟨padded, refreshed, padding, loadingAgain, refresh⟩ :=
    loadAll_extended fromStart decoded extension loading
  have encodedAgain : TypesFile.encode (merged settings refreshed) =
      .ok bytes := by
    rw [← TypesFile.encode_onFile, onFile_merged_extended padding refresh,
      TypesFile.encode_onFile, staged.encoded]
  obtain ⟨created, success⟩ := staged.created
  obtain ⟨locationAgain, createdAgain, successAgain⟩ :=
    TypesFile.create_of_create success fromStart.directories isTemporary
      pick.isTemporary (pick.free directory staged.staging)
  have landingAgain : later.landing place settings.outputPath = .ok target := by
    obtain ⟨accepted, parent, name, entered, last, admitted, child, _⟩ :=
      FileSystem.landing_eq_ok_iff.mp landing
    have output : (files.publish target bytes).node? target =
        some (.file FileSystem.publicMode bytes) := by
      rw [FileSystem.node?_publish
        (FileSystem.ne_nil_of_not_directory noDirectory), if_pos rfl]
    obtain ⟨mode, content, standing, _⟩ := refilled.contents output
    exact FileSystem.landing_eq_ok_iff.mpr ⟨accepted, parent, name,
      fromStart.directories.enter entered, last, admitted, child,
      by simp [standing]⟩
  have loadingExtended : loadAll { settings with pallets := extended } later
      place extended = .ok refreshed := by
    rw [loadAll_eq_ok_iff] at loadingAgain ⊢
    exact loadingAgain
  exact ⟨refreshed, locationAgain, loadingExtended,
    ⟨encodedAgain, staged.staging, createdAgain, successAgain⟩, landingAgain⟩

/-- A run whose output is fed back, as the types files of further pallets
anywhere in the list or of pallets listed before, succeeds and writes the same
bytes, and changes nothing else. -/
theorem aggregate_of_fedBack {first second : Text} {path : Path}
    {bytes : ByteArray} {later : FileSystem} {extended : List Text}
    (runtime : settings.runtimeTypes.hasDistinctKeys = true)
    (custom : settings.customTypes.hasDistinctKeys = true)
    (isTemporary : TypesFile.IsTemporaryName first)
    (succeeded : (aggregate settings files place first).result = .ok path)
    (written : (aggregate settings files place first).files.read place path =
      .ok bytes)
    (refilled : (aggregate settings files place first).files.Refilled bytes
      later)
    (extension : Interspersed (HoldsBytes settings later place bytes)
      settings.pallets extended)
    (pick : TypesFile.MayPick later place settings.outputPath second) :
    let again := aggregate { settings with pallets := extended } later place
      second
    again.result = .ok path ∧ again.files.read place path = .ok bytes ∧
      ∃ target,
        again.files.walk place path =
          .ok (.file target FileSystem.publicMode bytes) ∧
        ∀ other, other ≠ target →
          again.files.node? other = later.node? other := by
  intro again
  obtain ⟨loaded, document, directory, location, target, landed⟩ :=
    landed_of_result succeeded
  obtain ⟨filesOnce, resultOnce⟩ := aggregate_of_landed landed
  cases resultOnce.symm.trans succeeded
  rw [filesOnce] at written refilled
  have sameBytes := FileSystem.read_put_of_landing landed.landing
    FileSystem.publicMode document
  cases sameBytes.symm.trans written
  obtain ⟨loadedAgain, locationAgain, landedAgain⟩ :=
    landed_extended runtime custom isTemporary landed refilled extension pick
  obtain ⟨filesAgain, resultAgain⟩ := aggregate_of_landed landedAgain
  have named := FileSystem.ne_nil_of_not_directory
    (FileSystem.not_directory_of_landing landedAgain.landing)
  refine ⟨resultAgain, ?_, target, ?_, ?_⟩
  · rw [filesAgain]
    exact FileSystem.read_put_of_landing landedAgain.landing _ bytes
  · rw [filesAgain]
    exact FileSystem.walk_put_of_landing landedAgain.landing _ bytes
  · intro other elsewhere
    rw [filesAgain, FileSystem.node?_publish named,
      if_neg (Ne.symm elsewhere)]

end

/-- Settings with two pallets that share a name, and with a number in the
seeds that a file cannot keep. -/
def fedBack : Settings :=
  { baseDir := .ofText "."
    pallets := ["a", "b"]
    runtimeTypes := .ofPairs [("Rate", .float .undefined), ("X", .null)]
    customTypes := .empty
    logging := {} }

def fedBackFiles : FileSystem :=
  ⟨[(["scripts"], .directory), (["pallets"], .directory),
    (["pallets", "a"], .directory), (["pallets", "b"], .directory),
    (["pallets", "a", "types.json"],
      .file FileSystem.publicMode "\x7b\"X\":1,\"Y\":[]\x7d".toUTF8),
    (["pallets", "b", "types.json"],
      .file FileSystem.publicMode "\x7b\"Z\":\"u8\",\"X\":2\x7d".toUTF8)]⟩

def fedBackTables : List (Text × TypeTable) :=
  [("a", .ofPairs [("X", .int 1), ("Y", .list [])]),
    ("b", .ofPairs [("Z", .text "u8"), ("X", .int 2)])]

/-- The bytes that the run writes. -/
def fedBackBytes : ByteArray :=
  TypesFile.document (merged fedBack fedBackTables)

/-- A pallet with the output of the run as its types file is added. -/
def fedBackLater : FileSystem :=
  ((fedBackFiles.publish ["types.json"] fedBackBytes).put ["pallets", "all"]
    .directory).put ["pallets", "all", "types.json"]
      (.file FileSystem.privateMode fedBackBytes)

theorem landed_fedBack :
    ∃ location, Landed fedBack fedBackFiles ⟨["scripts"], 0⟩
      (TypesFile.temporaryName "abcd_012") fedBackTables fedBackBytes
      (.ofText "/") location ["types.json"] := by
  have first : TypesFile.load fedBackFiles ⟨["scripts"], 0⟩
      (fedBack.palletPath "a") =
        .ok (.ofPairs [("X", .int 1), ("Y", .list [])]) :=
    TypesFile.load_eq_ok_iff.mpr
      ⟨_, by rfl, TypesFile.decode_toUTF8 (by rfl)⟩
  have second : TypesFile.load fedBackFiles ⟨["scripts"], 0⟩
      (fedBack.palletPath "b") =
        .ok (.ofPairs [("Z", .text "u8"), ("X", .int 2)]) :=
    TypesFile.load_eq_ok_iff.mpr
      ⟨_, by rfl, TypesFile.decode_toUTF8 (by rfl)⟩
  have loading : loadAll fedBack fedBackFiles ⟨["scripts"], 0⟩
      fedBack.pallets = .ok fedBackTables := by
    refine loadAll_eq_ok_iff.mpr ⟨rfl, ?_⟩
    simp only [fedBackTables, List.forall_mem_cons]
    exact ⟨first, second, fun source member => nomatch member⟩
  have created : ∃ location created,
      fedBackFiles.create .top (.ofText "/")
        (TypesFile.temporaryName "abcd_012") = .ok (location, created) := by
    simp only [FileSystem.create_eq_ok_iff]
    exact ⟨_, _, by decide, ⟨[], 0⟩, rfl, by unfold Place.Admits; decide, rfl,
      by rfl, rfl⟩
  obtain ⟨location, created, success⟩ := created
  exact ⟨location, loading,
    ⟨TypesFile.encode_eq_ok_iff.mpr ⟨by decide, rfl⟩, by decide, created,
      success⟩, by rfl⟩

/-- The new pallet may be listed before, between and behind the others. -/
theorem aggregate_of_fedBack_everywhere :
    ∃ path,
      (aggregate fedBack fedBackFiles ⟨["scripts"], 0⟩
        (TypesFile.temporaryName "abcd_012")).result = .ok path ∧
      let again := aggregate
        { fedBack with pallets := ["all", "a", "all", "all", "b", "all"] }
        fedBackLater ⟨["scripts"], 0⟩ (TypesFile.temporaryName "z9z9z9z9")
      again.result = .ok path ∧
        again.files.read ⟨["scripts"], 0⟩ path = .ok fedBackBytes := by
  obtain ⟨location, landed⟩ := landed_fedBack
  obtain ⟨filesOnce, succeeded⟩ := aggregate_of_landed landed
  have written : (aggregate fedBack fedBackFiles ⟨["scripts"], 0⟩
      (TypesFile.temporaryName "abcd_012")).files.read ⟨["scripts"], 0⟩
        fedBack.outputPath = .ok fedBackBytes := by
    rw [filesOnce]
    exact FileSystem.read_put_of_landing landed.landing _ fedBackBytes
  have refilled : (aggregate fedBack fedBackFiles ⟨["scripts"], 0⟩
      (TypesFile.temporaryName "abcd_012")).files.Refilled fedBackBytes
        fedBackLater := by
    rw [filesOnce]
    exact (FileSystem.Refilled.put_free (by rfl) _).trans
      (.put_free (by rfl) _)
  have holds : HoldsBytes fedBack fedBackLater ⟨["scripts"], 0⟩ fedBackBytes
      "all" := by rfl
  have extension : Interspersed
      (HoldsBytes fedBack fedBackLater ⟨["scripts"], 0⟩ fedBackBytes)
      fedBack.pallets ["all", "a", "all", "all", "b", "all"] :=
    .further _ holds (.kept _ (.further _ holds (.further _ holds
      (.kept _ (.further _ holds .nil)))))
  have staging : TypesFile.stagingDirectory? ⟨["scripts"], 0⟩
      fedBack.outputPath = some (.ofText "/") := by decide
  have entered : fedBackLater.enter .top (.ofText "/") = .ok .top := by rfl
  have pick : TypesFile.MayPick fedBackLater ⟨["scripts"], 0⟩
      fedBack.outputPath (TypesFile.temporaryName "z9z9z9z9") :=
    TypesFile.mayPick_of_vacant staging (by decide) entered rfl
      ⟨"z9z9z9z9".toList, by decide, by decide, rfl⟩ (by rfl)
  obtain ⟨again, readAgain, _⟩ := aggregate_of_fedBack (by decide) (by decide)
    ⟨"abcd_012".toList, by decide, by decide, rfl⟩ succeeded written refilled
    extension pick
  exact ⟨_, succeeded, again, readAgain⟩

end Aggregation

end PalletTypes
