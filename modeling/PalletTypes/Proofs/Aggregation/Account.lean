import PalletTypes.Proofs.Aggregation.FirstFailure
import PalletTypes.Proofs.Aggregation.Landed
import PalletTypes.Proofs.TypesFile.Counts

/-!
# What a run says of itself

A run says what it has merged, read and written, each time with a count.
`Account` lists these lines by what is true of the files, without looking at
the run: the counts are those of the files, each pallet in front of the first
that fails has its lines, and the lines on the output stand there if and only
if the run succeeds.  The records of a run are the one account of it.
-/

namespace PalletTypes.Aggregation

/-- What a run says. -/
inductive Line where
  /-- So many types of a source have been merged. -/
  | merged (count : Nat) (source : Text)
  /-- So many pallets are going to be read. -/
  | pallets (count : Nat)
  /-- So many types have been read from a file. -/
  | read (count : Nat) (path : Path)
  /-- These sources have been merged. -/
  | sources (names : List Text)
  /-- A file of so many bytes has been written. -/
  | bytes (count : Nat) (path : Path)
  /-- A file with so many types has been written. -/
  | types (count : Nat) (path : Path)

/-- The level, the speaker and the words of a line. -/
def Line.record : Line → Log.Record
  | .merged count source =>
      { level := .debug
        logger := Log.Logger.merge
        message :=
          "Merged " ++ Text.ofNat count ++ " types from '" ++ source ++ "'" }
  | .pallets count =>
      { level := .info
        logger := Log.Logger.aggregation
        message :=
          "Aggregating types from " ++ Text.ofNat count ++ " pallets" }
  | .read count path =>
      { level := .debug
        logger := Log.Logger.loader
        message := "Read " ++ Text.ofNat count ++ " types from " ++ path.text }
  | .sources names =>
      { level := .debug
        logger := Log.Logger.aggregation
        message := "Merged sources: " ++ Text.quotedList names }
  | .bytes count path =>
      { level := .debug
        logger := Log.Logger.writer
        message := "Wrote " ++ Text.ofNat count ++ " bytes to " ++ path.text }
  | .types count path =>
      { level := .info
        logger := Log.Logger.aggregation
        message := "Wrote " ++ Text.ofNat count ++ " types to " ++ path.text }

/-- The lines on the seeds and on the number of pallets. -/
def openingLines (settings : Settings) : List Line :=
  [.merged settings.runtimeTypes.size "runtime",
    .merged settings.customTypes.size "subsocial",
    .pallets settings.pallets.length]

/-- The names of all sources of a run, in merge order. -/
def allSources (settings : Settings) : List Text :=
  "runtime" :: "subsocial" :: settings.pallets

/-- The lines on pallets that have been read: two for each, with the number of
keys that its file holds. -/
inductive Progress (settings : Settings) (files : FileSystem) (place : Place) :
    List Text → List Line → Prop where
  | nil : Progress settings files place [] []
  | cons {pallet : Text} {rest : List Text} {count : Nat} {lines : List Line}
      (holds : TypesFile.HoldsKeys files place (settings.palletPath pallet)
        count)
      (later : Progress settings files place rest lines) :
      Progress settings files place (pallet :: rest)
        (.read count (settings.palletPath pallet) :: .merged count pallet ::
          lines)

/-- The lines of a run that starts from these files. -/
inductive Account (settings : Settings) (files : FileSystem) (place : Place)
    (run : TypesFile.Outcome Path) : List Line → Prop where
  /-- A pallet cannot be read; the lines end with the pallet in front of it. -/
  | interrupted {before : List Text} {pallet : Text} {failure : Failure}
      {lines : List Line}
      (stops : StopsAt settings files place before pallet failure)
      (failed : run.result = .error failure)
      (progress : Progress settings files place before lines) :
      Account settings files place run (openingLines settings ++ lines)
  /-- All pallets have been read, but the output is not written. -/
  | unwritten {failure : Failure} {lines : List Line}
      (failed : run.result = .error failure)
      (progress : Progress settings files place settings.pallets lines) :
      Account settings files place run
        (openingLines settings ++ lines ++ [.sources (allSources settings)])
  /-- The output has been written and now holds so many bytes and keys. -/
  | written {content : ByteArray} {count : Nat} {lines : List Line}
      (succeeded : run.result = .ok settings.outputPath)
      (progress : Progress settings files place settings.pallets lines)
      (holdsBytes : run.files.read place settings.outputPath = .ok content)
      (holdsKeys : TypesFile.HoldsKeys run.files place settings.outputPath
        count) :
      Account settings files place run
        (openingLines settings ++ lines ++
          [.sources (allSources settings),
            .bytes content.size settings.outputPath,
            .types count settings.outputPath])

section

variable {settings : Settings} {files : FileSystem} {place : Place}
  {temporary : Text} {run : TypesFile.Outcome Path}

/-! ## There is one account -/

theorem Progress.isReadable {pallets : List Text} {lines : List Line}
    (progress : Progress settings files place pallets lines) :
    ∀ pallet ∈ pallets, IsReadable settings files place pallet := by
  induction progress with
  | nil => exact fun pallet member => nomatch member
  | cons holds later ih =>
      obtain ⟨table, loaded, -⟩ := TypesFile.holdsKeys_iff.mp holds
      exact List.forall_mem_cons.mpr ⟨⟨table, loaded⟩, ih⟩

theorem Progress.unique {pallets : List Text} {lines other : List Line}
    (progress : Progress settings files place pallets lines)
    (again : Progress settings files place pallets other) : lines = other := by
  induction progress generalizing other with
  | nil =>
      cases again
      rfl
  | cons holds later ih =>
      cases again with
      | cons holdsToo laterToo => rw [holds.unique holdsToo, ih laterToo]

/-- A pallet at which a run stops is not among those in front of it. -/
theorem StopsAt.not_isReadable {before : List Text} {pallet : Text}
    {failure : Failure}
    (stops : StopsAt settings files place before pallet failure) :
    ¬IsReadable settings files place pallet := by
  rintro ⟨table, loaded⟩
  exact nomatch stops.failing.symm.trans loaded

/-- Of two lists with a pallet behind them, where this is the first that cannot
be read, none goes on behind the other. -/
theorem StopsAt.eq_of_prefix {first second : List Text} {pallet other : Text}
    {failure cause : Failure}
    (stops : StopsAt settings files place first pallet failure)
    (stopsToo : StopsAt settings files place second other cause)
    (goesOn : first ++ [pallet] <+: second ++ [other]) : first = second := by
  rcases List.prefix_concat_iff.mp goesOn with same | inFront
  · exact (List.append_inj' same rfl).1
  · have member : pallet ∈ second := inFront.subset (by simp)
    exact absurd (stopsToo.readable pallet member) stops.not_isReadable

/-- A run stops at one place only. -/
theorem StopsAt.unique {first second : List Text} {pallet other : Text}
    {failure cause : Failure}
    (stops : StopsAt settings files place first pallet failure)
    (stopsToo : StopsAt settings files place second other cause) :
    first = second := by
  rcases List.prefix_or_prefix_of_prefix stops.listed stopsToo.listed with
    goesOn | goesOn
  · exact stops.eq_of_prefix stopsToo goesOn
  · exact (stopsToo.eq_of_prefix stops goesOn).symm

/-- A run that stops somewhere has not read all pallets. -/
theorem StopsAt.not_progress {before : List Text} {pallet : Text}
    {failure : Failure} {lines : List Line}
    (stops : StopsAt settings files place before pallet failure) :
    ¬Progress settings files place settings.pallets lines := by
  intro progress
  have listed : pallet ∈ settings.pallets :=
    stops.listed.subset (List.mem_append_right _ List.mem_cons_self)
  exact stops.not_isReadable (progress.isReadable pallet listed)

theorem Account.unique {lines other : List Line}
    (account : Account settings files place run lines)
    (again : Account settings files place run other) : lines = other := by
  cases account with
  | interrupted stops failed progress =>
      cases again with
      | interrupted stopsToo failedToo progressToo =>
          cases stops.unique stopsToo
          rw [progress.unique progressToo]
      | unwritten failedToo complete =>
          exact absurd complete stops.not_progress
      | written succeeded complete holdsBytes holdsKeys =>
          exact absurd complete stops.not_progress
  | unwritten failed complete =>
      cases again with
      | interrupted stops failedToo progress =>
          exact absurd complete stops.not_progress
      | unwritten failedToo completeToo =>
          rw [complete.unique completeToo]
      | written succeeded completeToo holdsBytes holdsKeys =>
          exact nomatch failed.symm.trans succeeded
  | written succeeded complete holdsBytes holdsKeys =>
      cases again with
      | interrupted stops failed progress =>
          exact absurd complete stops.not_progress
      | unwritten failed completeToo =>
          exact nomatch failed.symm.trans succeeded
      | written succeededToo completeToo holdsBytesToo holdsKeysToo =>
          rw [complete.unique completeToo, holdsKeys.unique holdsKeysToo]
          rw [holdsBytes, Except.ok.injEq] at holdsBytesToo
          rw [holdsBytesToo]

/-! ## The run gives the account -/

/-- The lines on pallets with these tables. -/
def progressLines (settings : Settings)
    (loaded : List (Text × TypeTable)) : List Line :=
  loaded.flatMap fun source =>
    [.read source.2.size (settings.palletPath source.1),
      .merged source.2.size source.1]

theorem progress_of_areLoaded {loaded : List (Text × TypeTable)}
    (areLoaded : AreLoaded settings files place loaded) :
    Progress settings files place (loaded.map Prod.fst)
      (progressLines settings loaded) := by
  induction loaded with
  | nil => exact .nil
  | cons source rest ih =>
      obtain ⟨read, later⟩ := List.forall_mem_cons.mp areLoaded
      exact .cons (TypesFile.holdsKeys_of_load read) (ih later)

theorem map_record_progressLines (settings : Settings)
    (loaded : List (Text × TypeTable)) :
    (progressLines settings loaded).map Line.record =
      progressRecords settings loaded := by
  rw [progressLines, List.map_flatMap]
  rfl

theorem map_record_openingLines (settings : Settings) :
    (openingLines settings).map Line.record = openingRecords settings := rfl

theorem sourcesRecord_eq {loaded : List (Text × TypeTable)}
    (names : loaded.map Prod.fst = settings.pallets) :
    sourcesRecord (Merge.empty.addAll (seeds settings ++ loaded)) =
      (Line.sources (allSources settings)).record := by
  have listed : (Merge.empty.addAll (seeds settings ++ loaded)).sources =
      allSources settings := by
    rw [Merge.sources_addAll, List.map_append, names]
    rfl
  rw [sourcesRecord, listed]
  rfl

/-- A collection that has read all pallets says so of each, and then of all
sources. -/
theorem collect_of_loadAll {loaded : List (Text × TypeTable)}
    (loading : loadAll settings files place settings.pallets = .ok loaded) :
    collect settings files place =
      ((openingLines settings ++ progressLines settings loaded ++
          [Line.sources (allSources settings)]).map Line.record,
        .ok (merged settings loaded)) := by
  obtain ⟨names, areLoaded⟩ := loadAll_eq_ok_iff.mp loading
  have merging := mergePallets_append areLoaded (seed settings) []
  rw [names, List.append_nil, seed_eq_addAll, ← Merge.addAll_append]
    at merging
  rw [collect, seed_eq_addAll, merging, mergePallets, List.append_nil,
    List.map_append, List.map_append, map_record_openingLines,
    map_record_progressLines, List.map_singleton, ← sourcesRecord_eq names]
  rfl

/-- The records of a run give an account of it. -/
theorem exists_account (settings : Settings) (files : FileSystem)
    (place : Place) (temporary : Text) :
    ∃ lines, Account settings files place
        (aggregate settings files place temporary) lines ∧
      (aggregate settings files place temporary).records =
        lines.map Line.record := by
  cases loading : loadAll settings files place settings.pallets with
  | error failure =>
      obtain ⟨before, pallet, stops⟩ := collect_eq_error_iff_stopsAt.mp
        (collect_eq_error_iff.mpr loading)
      have aggregated := stops.failsWith.aggregated temporary
      have areLoaded : AreLoaded settings files place
          (sourcesIn (palletTable settings files place) before) :=
        areLoaded_sourcesIn_iff.mpr fun earlier member =>
          load_of_isReadable (stops.readable earlier member)
      have progress := progress_of_areLoaded areLoaded
      rw [map_fst_sourcesIn] at progress
      rw [aggregated]
      refine ⟨_, .interrupted stops rfl progress, ?_⟩
      rw [List.map_append, map_record_openingLines, map_record_progressLines]
  | ok loaded =>
      obtain ⟨names, areLoaded⟩ := loadAll_eq_ok_iff.mp loading
      have progress := progress_of_areLoaded areLoaded
      rw [names] at progress
      have collected := collect_of_loadAll loading
      rcases TypesFile.records_write files place temporary
          (merged settings loaded) settings.outputPath with
        ⟨failure, failed, silent⟩ | ⟨content, succeeded, holdsBytes, told⟩
      · rw [aggregate, collected]
        simp only [failed, silent, List.append_nil]
        exact ⟨_, .unwritten rfl progress, rfl⟩
      · have holdsKeys := TypesFile.holdsKeys_of_write succeeded
        rw [aggregate, collected]
        simp only [succeeded, told]
        refine ⟨_, .written rfl progress holdsBytes holdsKeys, ?_⟩
        simp only [List.map_append, List.append_assoc]
        rfl

/-- The records of a run are the lines of its account, in this order and with
nothing beside them, and there is one account only. -/
theorem aggregate_account (settings : Settings) (files : FileSystem)
    (place : Place) (temporary : Text) :
    let run := aggregate settings files place temporary
    ∃ lines, Account settings files place run lines ∧
      (∀ other, Account settings files place run other → other = lines) ∧
      run.records = lines.map Line.record := by
  intro run
  obtain ⟨lines, account, records⟩ :=
    exists_account settings files place temporary
  exact ⟨lines, account, fun other again => again.unique account, records⟩

end

end PalletTypes.Aggregation
