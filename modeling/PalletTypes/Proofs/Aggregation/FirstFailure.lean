import PalletTypes.Proofs.Aggregation.Sources
import PalletTypes.Proofs.TypesFile.Document

/-!
# The first pallet that fails

Pallets are read in order, and the first that cannot be read ends the run with
the failure of this reading.  Up to there a run says of each pallet that it has
been read and merged.  So the failure and everything that is said on the way
depend on what reading these pallets leads to and on nothing else: not on the
pallets behind, not on the seeds, and on no other file.
-/

namespace PalletTypes.Aggregation

/-- What is said of pallets that have been read and merged. -/
def progressRecords (settings : Settings)
    (loaded : List (Text × TypeTable)) : List Log.Record :=
  loaded.flatMap fun source =>
    [TypesFile.readRecord source.2 (settings.palletPath source.1),
      Merge.record source.1 source.2]

/-- The pallets before this one can be read, and this one cannot. -/
structure StopsAt (settings : Settings) (files : FileSystem) (place : Place)
    (before : List Text) (pallet : Text) (failure : Failure) : Prop where
  listed : before ++ [pallet] <+: settings.pallets
  readable : ∀ earlier ∈ before, IsReadable settings files place earlier
  failing : TypesFile.load files place (settings.palletPath pallet) =
    .error failure

/-- A collection and a run fail alike.  After the opening records they make
these ones, and the run leaves all files as they are. -/
structure FailsWith (settings : Settings) (files : FileSystem) (place : Place)
    (records : List Log.Record) (failure : Failure) : Prop where
  collected : collect settings files place =
    (openingRecords settings ++ records, .error failure)
  aggregated : ∀ temporary, aggregate settings files place temporary =
    ⟨files, openingRecords settings ++ records, .error failure⟩

/-- Seen from a base directory, each of the pallets is read with the same
outcome in both file systems. -/
def ReadAlike (baseDir : Path) (files : FileSystem) (place : Place)
    (others : FileSystem) (elsewhere : Place) (pallets : List Text) : Prop :=
  ∀ pallet ∈ pallets,
    TypesFile.load files place (Settings.typesFile baseDir pallet) =
      TypesFile.load others elsewhere (Settings.typesFile baseDir pallet)

section

variable {settings later : Settings} {files others : FileSystem}
  {place elsewhere : Place}

/-- Pallets that have been loaded are merged one by one, and what is said of
them comes first. -/
theorem mergePallets_append {front : List (Text × TypeTable)}
    (loaded : AreLoaded settings files place front) (merge : Merge)
    (rest : List Text) :
    mergePallets settings files place merge (front.map Prod.fst ++ rest) =
      (progressRecords settings front ++
          (mergePallets settings files place (merge.addAll front) rest).1,
        (mergePallets settings files place (merge.addAll front) rest).2) := by
  induction front generalizing merge with
  | nil => rfl
  | cons source front ih =>
      obtain ⟨read, loadedLater⟩ := List.forall_mem_cons.mp loaded
      have remaining := ih loadedLater (merge.add source.1 source.2)
      rw [List.map_cons, List.cons_append, mergePallets, TypesFile.read, read]
      simp only [remaining]
      rfl

/-- A pallet that cannot be read ends the merging, whatever is behind it. -/
theorem mergePallets_of_failing {pallet : Text} {failure : Failure}
    (failing : TypesFile.load files place (settings.palletPath pallet) =
      .error failure) (merge : Merge) (rest : List Text) :
    mergePallets settings files place merge (pallet :: rest) =
      ([], .error failure) := by
  rw [mergePallets, TypesFile.read, failing]

/-- A run fails with the first pallet that cannot be read, and what it says is
told by the pallets in front. -/
theorem StopsAt.failsWith {before : List Text} {pallet : Text}
    {failure : Failure}
    (stops : StopsAt settings files place before pallet failure) :
    FailsWith settings files place
      (progressRecords settings
        (sourcesIn (palletTable settings files place) before)) failure := by
  obtain ⟨⟨after, listed⟩, readable, failing⟩ := stops
  have loaded : AreLoaded settings files place
      (sourcesIn (palletTable settings files place) before) :=
    areLoaded_sourcesIn_iff.mpr fun earlier member =>
      load_of_isReadable (readable earlier member)
  have merging := mergePallets_append loaded (seed settings) (pallet :: after)
  rw [map_fst_sourcesIn, List.append_cons, listed,
    mergePallets_of_failing failing, List.append_nil] at merging
  have collected : collect settings files place =
      (openingRecords settings ++ progressRecords settings
        (sourcesIn (palletTable settings files place) before),
        .error failure) := by
    rw [collect, merging]
  refine ⟨collected, fun temporary => ?_⟩
  rw [aggregate, collected]

/-- A run with the same base directory stops at the same pallet if its list of
pallets begins in the same way and these pallets are read alike. -/
theorem StopsAt.transfer {before : List Text} {pallet : Text}
    {failure : Failure}
    (stops : StopsAt settings files place before pallet failure)
    (sameBase : later.baseDir = settings.baseDir)
    (listed : before ++ [pallet] <+: later.pallets)
    (alike : ReadAlike settings.baseDir files place others elsewhere
      (before ++ [pallet])) :
    StopsAt later others elsewhere before pallet failure := by
  obtain ⟨alikeBefore, alikeHere⟩ := List.forall_mem_append.mp alike
  rw [List.forall_mem_singleton] at alikeHere
  refine ⟨listed, ?_, ?_⟩
  · intro earlier member
    obtain ⟨table, loaded⟩ := stops.readable earlier member
    refine ⟨table, ?_⟩
    rw [Settings.palletPath, sameBase, ← alikeBefore earlier member]
    exact loaded
  · rw [Settings.palletPath, sameBase, ← alikeHere]
    exact stops.failing

/-- What is said of pallets is the same where they are read alike. -/
theorem progressRecords_of_readAlike {pallets : List Text}
    (sameBase : later.baseDir = settings.baseDir)
    (alike : ReadAlike settings.baseDir files place others elsewhere pallets) :
    progressRecords later
        (sourcesIn (palletTable later others elsewhere) pallets) =
      progressRecords settings
        (sourcesIn (palletTable settings files place) pallets) := by
  have samePath : later.palletPath = settings.palletPath := by
    funext pallet
    rw [Settings.palletPath, Settings.palletPath, sameBase]
  have sameSources : sourcesIn (palletTable later others elsewhere) pallets =
      sourcesIn (palletTable settings files place) pallets := by
    apply List.map_congr_left
    intro pallet listed
    have sameLoad : TypesFile.load files place (settings.palletPath pallet) =
        TypesFile.load others elsewhere (settings.palletPath pallet) :=
      alike pallet listed
    rw [palletTable, palletTable, samePath, sameLoad]
  rw [progressRecords, progressRecords, samePath, sameSources]

/-- A run that stops somewhere is a run whose collection fails. -/
theorem collect_eq_error_iff_stopsAt {failure : Failure} :
    (collect settings files place).2 = .error failure ↔
      ∃ before pallet,
        StopsAt settings files place before pallet failure := by
  constructor
  · intro failed
    obtain ⟨before, pallet, after, listed, readable, failing⟩ :=
      loadAll_failure (collect_eq_error_iff.mp failed)
    exact ⟨before, pallet, ⟨after, by simp [listed]⟩, readable, failing⟩
  · rintro ⟨before, pallet, stops⟩
    rw [stops.failsWith.collected]

/-- A collection fails if some pallet cannot be read.  The failure is that of
the first such pallet, for a run as for a collection.  It is the same, after
the same records, for every list of pallets that begins in the same way and in
every file system where the pallets up to this one are read alike.  Where all
pallets are read, and read alike, the same table is collected. -/
theorem collect_failsFast (settings : Settings) (files : FileSystem)
    (place : Place) :
    ((∃ failure, (collect settings files place).2 = .error failure) ↔
      ∃ pallet ∈ settings.pallets, ∃ failure,
        TypesFile.load files place (settings.palletPath pallet) =
          .error failure) ∧
    (∀ failure, (collect settings files place).2 = .error failure ↔
      ∃ before pallet, StopsAt settings files place before pallet failure) ∧
    (∀ before pallet failure,
      StopsAt settings files place before pallet failure →
      ∃ records, FailsWith settings files place records failure ∧
        ∀ (later : Settings) (others : FileSystem) (elsewhere : Place),
          later.baseDir = settings.baseDir →
          before ++ [pallet] <+: later.pallets →
          ReadAlike settings.baseDir files place others elsewhere
            (before ++ [pallet]) →
          FailsWith later others elsewhere records failure) ∧
    ∀ (others : FileSystem) (elsewhere : Place),
      (∀ pallet ∈ settings.pallets,
        IsReadable settings files place pallet) →
      ReadAlike settings.baseDir files place others elsewhere
        settings.pallets →
      ∃ table, (collect settings files place).2 = .ok table ∧
        (collect settings others elsewhere).2 = .ok table := by
  refine ⟨⟨?_, ?_⟩, fun failure => collect_eq_error_iff_stopsAt, ?_, ?_⟩
  · rintro ⟨failure, failed⟩
    obtain ⟨before, pallet, stops⟩ := collect_eq_error_iff_stopsAt.mp failed
    have listed : pallet ∈ settings.pallets :=
      stops.listed.subset (List.mem_append_right _ List.mem_cons_self)
    exact ⟨pallet, listed, failure, stops.failing⟩
  · rintro ⟨pallet, listed, failure, failing⟩
    cases collected : (collect settings files place).2 with
    | error cause => exact ⟨cause, rfl⟩
    | ok table =>
        obtain ⟨read, loaded⟩ := isReadable_of_collect collected pallet listed
        exact nomatch failing.symm.trans loaded
  · intro before pallet failure stops
    refine ⟨_, stops.failsWith, ?_⟩
    intro later others elsewhere sameBase listed alike
    have said := progressRecords_of_readAlike sameBase
      (List.forall_mem_append.mp alike).1
    rw [← said]
    exact (stops.transfer sameBase listed alike).failsWith
  · intro others elsewhere readable alike
    obtain ⟨table, collected⟩ := exists_collect_iff.mpr readable
    refine ⟨table, collected, ?_⟩
    rw [collect_result, ← loadAll_congr alike, ← collect_result]
    exact collected

end

/-- Settings that list one pallet under two names, then one whose types file
is a directory, and then one that is missing. -/
def interrupted : Settings :=
  { baseDir := .ofText ""
    pallets := ["a", "b/../a", "b", "c"]
    runtimeTypes := Settings.defaultRuntimeTypes
    customTypes := Settings.defaultCustomTypes
    logging := {} }

def interruptedFiles : FileSystem :=
  ⟨[(["scripts"], .directory), (["pallets"], .directory),
    (["pallets", "a"], .directory), (["pallets", "b"], .directory),
    (["pallets", "a", "types.json"],
      .file FileSystem.publicMode "\x7b\"X\":1\x7d".toUTF8),
    (["pallets", "b", "types.json"], .directory)]⟩

/-- The same up to the directory; behind it everything is different. -/
def interruptedLater : Settings :=
  { interrupted with pallets := ["a", "b/../a", "b"], runtimeTypes := .empty }

def interruptedOthers : FileSystem :=
  (interruptedFiles.put ["pallets", "c"] .directory).put ["types.json"]
    (.file FileSystem.publicMode "[]".toUTF8)

theorem collect_failsFast_interrupted :
    (∃ records,
      FailsWith interrupted interruptedFiles ⟨["scripts"], 0⟩ records
        (.types ⟨interrupted.palletPath "b", .unreadable .isDirectory⟩) ∧
      FailsWith interruptedLater interruptedOthers ⟨["scripts"], 0⟩ records
        (.types ⟨interrupted.palletPath "b", .unreadable .isDirectory⟩)) ∧
    ∃ table,
      (collect { interrupted with pallets := ["a", "b/../a"] }
        interruptedFiles ⟨["scripts"], 0⟩).2 = .ok table ∧
      (collect { interrupted with pallets := ["a", "b/../a"] }
        interruptedOthers ⟨["scripts"], 0⟩).2 = .ok table := by
  have first : TypesFile.load interruptedFiles ⟨["scripts"], 0⟩
      (interrupted.palletPath "a") = .ok (.ofPairs [("X", .int 1)]) :=
    TypesFile.load_eq_ok_iff.mpr
      ⟨_, by rfl, TypesFile.decode_toUTF8 (by rfl)⟩
  have second : TypesFile.load interruptedFiles ⟨["scripts"], 0⟩
      (interrupted.palletPath "b/../a") = .ok (.ofPairs [("X", .int 1)]) :=
    TypesFile.load_eq_ok_iff.mpr
      ⟨_, by rfl, TypesFile.decode_toUTF8 (by rfl)⟩
  have stops : StopsAt interrupted interruptedFiles ⟨["scripts"], 0⟩
      ["a", "b/../a"] "b"
      (.types ⟨interrupted.palletPath "b", .unreadable .isDirectory⟩) := by
    refine ⟨⟨["c"], rfl⟩, ?_, by rfl⟩
    simp only [List.forall_mem_cons]
    exact ⟨⟨_, first⟩, ⟨_, second⟩, fun pallet listed => nomatch listed⟩
  have alike : ReadAlike interrupted.baseDir interruptedFiles
      ⟨["scripts"], 0⟩ interruptedOthers ⟨["scripts"], 0⟩
      ((["a", "b/../a"] : List Text) ++ (["b"] : List Text)) := by
    simp only [ReadAlike, List.cons_append, List.nil_append,
      List.forall_mem_cons]
    exact ⟨by rfl, by rfl, by rfl, fun pallet listed => nomatch listed⟩
  refine ⟨?_, ?_⟩
  · obtain ⟨records, fails, same⟩ := (collect_failsFast interrupted
      interruptedFiles ⟨["scripts"], 0⟩).2.2.1 _ _ _ stops
    exact ⟨records, fails,
      same interruptedLater interruptedOthers ⟨["scripts"], 0⟩ rfl
        (List.prefix_refl _) alike⟩
  · apply (collect_failsFast { interrupted with pallets := ["a", "b/../a"] }
      interruptedFiles ⟨["scripts"], 0⟩).2.2.2
    · exact stops.readable
    · exact (List.forall_mem_append.mp alike).1

end PalletTypes.Aggregation
