import PalletTypes.Aggregation
import PalletTypes.Proofs.Merge
import PalletTypes.Proofs.TypesFile.Loading

/-!
# The sources of a run

A run merges the two seed tables and then the tables of its pallets.
`loadAll` reads these tables without merging them, and `collect_result` splits
a collection into this reading and one merge of everything that was read.
-/

namespace PalletTypes.Aggregation

/-- The tables that are merged before those of the pallets. -/
def seeds (settings : Settings) : List (Text × TypeTable) :=
  [(Settings.runtimeSource, settings.runtimeTypes),
    (Settings.customSource, settings.customTypes)]

theorem seed_eq_addAll (settings : Settings) :
    seed settings = Merge.empty.addAll (seeds settings) := rfl

/-- The tables of pallets under the pallets' names, up to the first that
fails. -/
def loadAll (settings : Settings) (files : FileSystem) (place : Place) :
    List Text → Except Failure (List (Text × TypeTable))
  | [] => .ok []
  | pallet :: rest =>
      match TypesFile.load files place (settings.palletPath pallet) with
      | .error failure => .error failure
      | .ok table =>
          (loadAll settings files place rest).map ((pallet, table) :: ·)

/-- Each source has been loaded from the types file of its pallet. -/
def AreLoaded (settings : Settings) (files : FileSystem) (place : Place)
    (sources : List (Text × TypeTable)) : Prop :=
  ∀ source ∈ sources,
    TypesFile.load files place (settings.palletPath source.1) = .ok source.2

/-- Some pallets with their tables, as sources of a merge. -/
def sourcesIn (tables : Text → TypeTable) (pallets : List Text) :
    List (Text × TypeTable) :=
  pallets.map fun pallet => (pallet, tables pallet)

/-- The types file of a pallet is there and holds a mapping. -/
def IsReadable (settings : Settings) (files : FileSystem) (place : Place)
    (pallet : Text) : Prop :=
  ∃ table,
    TypesFile.load files place (settings.palletPath pallet) = .ok table

/-- The table of a pallet, which is empty if the pallet cannot be read. -/
def palletTable (settings : Settings) (files : FileSystem) (place : Place)
    (pallet : Text) : TypeTable :=
  (TypesFile.load files place
    (settings.palletPath pallet)).toOption.getD .empty

section

variable {settings : Settings} {files : FileSystem} {place : Place}

theorem areLoaded_sourcesIn_iff {tables : Text → TypeTable}
    {pallets : List Text} :
    AreLoaded settings files place (sourcesIn tables pallets) ↔
      ∀ pallet ∈ pallets,
        TypesFile.load files place (settings.palletPath pallet) =
          .ok (tables pallet) := by
  simp [AreLoaded, sourcesIn]

theorem map_fst_sourcesIn (tables : Text → TypeTable) (pallets : List Text) :
    (sourcesIn tables pallets).map Prod.fst = pallets := by
  simp [sourcesIn, Function.comp_def]

theorem load_of_isReadable {pallet : Text}
    (readable : IsReadable settings files place pallet) :
    TypesFile.load files place (settings.palletPath pallet) =
      .ok (palletTable settings files place pallet) := by
  obtain ⟨table, loaded⟩ := readable
  simp [palletTable, loaded, Except.toOption]

theorem loadAll_nil : loadAll settings files place [] = .ok [] := rfl

theorem loadAll_cons (pallet : Text) (rest : List Text) :
    loadAll settings files place (pallet :: rest) =
      match TypesFile.load files place (settings.palletPath pallet) with
      | .error failure => .error failure
      | .ok table =>
          (loadAll settings files place rest).map ((pallet, table) :: ·) :=
  rfl

theorem loadAll_cons_eq_ok_iff {pallet : Text} {rest : List Text}
    {loaded : List (Text × TypeTable)} :
    loadAll settings files place (pallet :: rest) = .ok loaded ↔
      ∃ table tail,
        TypesFile.load files place (settings.palletPath pallet) = .ok table ∧
        loadAll settings files place rest = .ok tail ∧
        (pallet, table) :: tail = loaded := by
  rw [loadAll_cons]
  cases TypesFile.load files place (settings.palletPath pallet) with
  | error failure => simp
  | ok table =>
      cases loadAll settings files place rest <;> simp [Except.map]

/-- All tables are loaded if each source holds the table of its pallet. -/
theorem loadAll_eq_ok_iff {pallets : List Text}
    {loaded : List (Text × TypeTable)} :
    loadAll settings files place pallets = .ok loaded ↔
      loaded.map Prod.fst = pallets ∧ ∀ source ∈ loaded,
        TypesFile.load files place (settings.palletPath source.1) =
          .ok source.2 := by
  induction pallets generalizing loaded with
  | nil => cases loaded <;> simp [loadAll_nil]
  | cons pallet rest ih =>
      simp only [loadAll_cons_eq_ok_iff, ih]
      constructor
      · rintro ⟨table, tail, read, ⟨rfl, tables⟩, rfl⟩
        exact ⟨rfl, List.forall_mem_cons.mpr ⟨read, tables⟩⟩
      · rintro ⟨names, tables⟩
        cases loaded with
        | nil => exact nomatch names
        | cons source tail =>
            rw [List.map_cons, List.cons.injEq] at names
            rw [List.forall_mem_cons] at tables
            obtain ⟨rfl, names⟩ := names
            exact ⟨source.2, tail, tables.1, ⟨names, tables.2⟩, rfl⟩

theorem loadAll_of_readable {tables : Text → TypeTable} {pallets : List Text}
    (readable : ∀ pallet ∈ pallets,
      TypesFile.load files place (settings.palletPath pallet) =
        .ok (tables pallet)) :
    loadAll settings files place pallets = .ok (sourcesIn tables pallets) :=
  loadAll_eq_ok_iff.mpr
    ⟨map_fst_sourcesIn tables pallets, areLoaded_sourcesIn_iff.mpr readable⟩

/-- Pallets that are read with the same outcome are loaded with the same
outcome. -/
theorem loadAll_congr {other : Settings} {others : FileSystem}
    {elsewhere : Place} {pallets : List Text}
    (alike : ∀ pallet ∈ pallets,
      TypesFile.load files place (settings.palletPath pallet) =
        TypesFile.load others elsewhere (other.palletPath pallet)) :
    loadAll settings files place pallets =
      loadAll other others elsewhere pallets := by
  induction pallets with
  | nil => rfl
  | cons pallet rest ih =>
      obtain ⟨alikeHere, alikeLater⟩ := List.forall_mem_cons.mp alike
      rw [loadAll_cons, loadAll_cons, ih alikeLater, alikeHere]

/-- Pallets are loaded in two parts as they are loaded in one. -/
theorem loadAll_append (first second : List Text) :
    loadAll settings files place (first ++ second) =
      (loadAll settings files place first).bind fun front =>
        (loadAll settings files place second).map (front ++ ·) := by
  induction first with
  | nil =>
      rw [List.nil_append]
      cases loadAll settings files place second <;> rfl
  | cons pallet rest ih =>
      rw [List.cons_append, loadAll_cons, loadAll_cons, ih]
      cases TypesFile.load files place (settings.palletPath pallet) with
      | error failure => rfl
      | ok table =>
          cases loadAll settings files place rest with
          | error failure => rfl
          | ok front => cases loadAll settings files place second <;> rfl

/-- Loading fails with the first pallet that cannot be loaded. -/
theorem loadAll_failure {pallets : List Text} {failure : Failure}
    (failed : loadAll settings files place pallets = .error failure) :
    ∃ before pallet after, pallets = before ++ pallet :: after ∧
      (∀ earlier ∈ before, IsReadable settings files place earlier) ∧
      TypesFile.load files place (settings.palletPath pallet) =
        .error failure := by
  induction pallets with
  | nil => simp [loadAll_nil] at failed
  | cons first rest ih =>
      rw [loadAll_cons] at failed
      cases read : TypesFile.load files place (settings.palletPath first) with
      | error cause =>
          simp only [read, Except.error.injEq] at failed
          have refused := read.trans (congrArg Except.error failed)
          exact ⟨[], first, rest, rfl, by simp, refused⟩
      | ok table =>
          cases later : loadAll settings files place rest with
          | ok tables => simp [read, later, Except.map] at failed
          | error cause =>
              simp only [read, later, Except.map, Except.error.injEq] at failed
              obtain ⟨before, pallet, after, rfl, readable, refused⟩ :=
                ih (failed ▸ later)
              refine ⟨first :: before, pallet, after, rfl, ?_, refused⟩
              exact List.forall_mem_cons.mpr ⟨⟨table, read⟩, readable⟩

/-- Merging the pallets is loading them and merging what was loaded. -/
theorem mergePallets_result (settings : Settings) (files : FileSystem)
    (place : Place) (merge : Merge) (pallets : List Text) :
    (mergePallets settings files place merge pallets).2 =
      (loadAll settings files place pallets).map merge.addAll := by
  induction pallets generalizing merge with
  | nil => rfl
  | cons pallet rest ih =>
      rw [loadAll_cons]
      unfold mergePallets TypesFile.read
      cases TypesFile.load files place (settings.palletPath pallet) with
      | error failure => rfl
      | ok table =>
          simp only [ih]
          cases loadAll settings files place rest <;> rfl

/-- A collection is one merge of the seeds and of all that was loaded. -/
theorem collect_result (settings : Settings) (files : FileSystem)
    (place : Place) :
    (collect settings files place).2 =
      (loadAll settings files place settings.pallets).map fun loaded =>
        (Merge.empty.addAll (seeds settings ++ loaded)).table := by
  have merged := mergePallets_result settings files place (seed settings)
    settings.pallets
  unfold collect
  cases run : mergePallets settings files place (seed settings)
      settings.pallets with
  | mk records result =>
      simp only [run] at merged
      subst merged
      cases loadAll settings files place settings.pallets with
      | error failure => rfl
      | ok loaded =>
          simp [Except.map, seed_eq_addAll, Merge.addAll_append]

theorem collect_eq_ok_iff {table : TypeTable} :
    (collect settings files place).2 = .ok table ↔
      ∃ loaded, loadAll settings files place settings.pallets = .ok loaded ∧
        (Merge.empty.addAll (seeds settings ++ loaded)).table = table := by
  rw [collect_result]
  cases loadAll settings files place settings.pallets <;> simp [Except.map]

theorem collect_eq_error_iff {failure : Failure} :
    (collect settings files place).2 = .error failure ↔
      loadAll settings files place settings.pallets = .error failure := by
  rw [collect_result]
  cases loadAll settings files place settings.pallets <;> simp [Except.map]

/-- A collection has read every pallet. -/
theorem isReadable_of_collect {table : TypeTable}
    (collected : (collect settings files place).2 = .ok table) :
    ∀ pallet ∈ settings.pallets, IsReadable settings files place pallet := by
  obtain ⟨loaded, loading, _⟩ := collect_eq_ok_iff.mp collected
  obtain ⟨names, tables⟩ := loadAll_eq_ok_iff.mp loading
  intro pallet listed
  rw [← names] at listed
  obtain ⟨source, member, rfl⟩ := List.mem_map.mp listed
  exact ⟨source.2, tables source member⟩

/-- Pallets in a row that can be loaded are collected with what is listed
before and behind them. -/
theorem collect_of_middle {before middle after : List Text}
    {tables : List (Text × TypeTable)}
    (loading : loadAll settings files place middle = .ok tables) :
    (collect { settings with pallets := before ++ middle ++ after }
        files place).2 =
      (loadAll settings files place before).bind fun front =>
        (loadAll settings files place after).map fun back =>
          (Merge.empty.addAll
            (seeds settings ++ front ++ tables ++ back)).table := by
  have whole : loadAll { settings with pallets := before ++ middle ++ after }
      files place (before ++ middle ++ after) =
        loadAll settings files place (before ++ middle ++ after) :=
    loadAll_congr fun pallet listed => rfl
  rw [collect_result, whole, loadAll_append, loadAll_append, loading]
  cases loadAll settings files place before with
  | error failure => rfl
  | ok front =>
      cases loadAll settings files place after with
      | error failure => rfl
      | ok back =>
          simp only [Except.bind, Except.map, ← List.append_assoc]
          rfl

/-- A pallet whose table is the merge of some sources is collected as they
are, whatever is listed before and behind. -/
theorem collect_of_merged {middle : List (Text × TypeTable)} {summary : Text}
    (loaded : AreLoaded settings files place middle)
    (summarized : TypesFile.load files place (settings.palletPath summary) =
      .ok (Merge.empty.addAll middle).table) (before after : List Text) :
    (collect { settings with pallets := before ++ [summary] ++ after }
        files place).2 =
      (collect
        { settings with pallets := before ++ middle.map Prod.fst ++ after }
        files place).2 := by
  have parts : loadAll settings files place (middle.map Prod.fst) =
      .ok middle := loadAll_eq_ok_iff.mpr ⟨rfl, loaded⟩
  have whole : loadAll settings files place [summary] =
      .ok [(summary, (Merge.empty.addAll middle).table)] :=
    loadAll_eq_ok_iff.mpr ⟨rfl, List.forall_mem_singleton.mpr summarized⟩
  rw [collect_of_middle whole, collect_of_middle parts]
  simp only [Merge.table_addAll_merged]

/-- What is collected from pallets that can be read is one merge of the seeds
and of their tables. -/
theorem collect_of_tables {tables : Text → TypeTable}
    (readable : ∀ pallet ∈ settings.pallets,
      TypesFile.load files place (settings.palletPath pallet) =
        .ok (tables pallet)) :
    (collect settings files place).2 = .ok (Merge.empty.addAll
      (seeds settings ++ sourcesIn tables settings.pallets)).table :=
  collect_eq_ok_iff.mpr ⟨_, loadAll_of_readable readable, rfl⟩

theorem collect_of_isReadable
    (readable : ∀ pallet ∈ settings.pallets,
      IsReadable settings files place pallet) :
    (collect settings files place).2 = .ok (Merge.empty.addAll (seeds settings ++
      sourcesIn (palletTable settings files place) settings.pallets)).table :=
  collect_of_tables fun pallet listed =>
    load_of_isReadable (readable pallet listed)

/-- A collection succeeds if every pallet can be read. -/
theorem exists_collect_iff :
    (∃ table, (collect settings files place).2 = .ok table) ↔
      ∀ pallet ∈ settings.pallets, IsReadable settings files place pallet := by
  constructor
  · rintro ⟨table, collected⟩
    exact isReadable_of_collect collected
  · intro readable
    exact ⟨_, collect_of_isReadable readable⟩

/-- All sources of a run have a property that the seeds have and that every
table which is loaded has. -/
theorem forall_mem_sources (property : TypeTable → Prop)
    {loaded : List (Text × TypeTable)}
    (runtime : property settings.runtimeTypes)
    (custom : property settings.customTypes)
    (read : ∀ {path : Path} {table : TypeTable},
      TypesFile.load files place path = .ok table → property table)
    (loading : loadAll settings files place settings.pallets = .ok loaded) :
    ∀ source ∈ seeds settings ++ loaded, property source.2 := by
  intro source member
  rcases List.mem_append.mp member with inSeeds | inLoaded
  · simp only [seeds, List.mem_cons, List.not_mem_nil, or_false] at inSeeds
    rcases inSeeds with rfl | rfl
    · exact runtime
    · exact custom
  · exact read ((loadAll_eq_ok_iff.mp loading).2 source inLoaded)

theorem files_aggregate (settings : Settings) (files : FileSystem)
    (place : Place) (temporary : Text) :
    (aggregate settings files place temporary).files =
      match (collect settings files place).2 with
      | .error _ => files
      | .ok table =>
          (TypesFile.write files place temporary true table
            settings.outputPath).files := by
  unfold aggregate
  cases run : collect settings files place with
  | mk records result =>
      cases result with
      | error failure => rfl
      | ok table =>
          simp only
          cases (TypesFile.write files place temporary true table
            settings.outputPath).result <;> rfl

/-- A run succeeds with the writing of the collected table, and gives the
path of the output. -/
theorem result_aggregate (settings : Settings) (files : FileSystem)
    (place : Place) (temporary : Text) :
    (aggregate settings files place temporary).result =
      match (collect settings files place).2 with
      | .error failure => .error failure
      | .ok table =>
          (TypesFile.write files place temporary true table
            settings.outputPath).result.map fun _ => settings.outputPath := by
  unfold aggregate
  cases run : collect settings files place with
  | mk records result =>
      cases result with
      | error failure => rfl
      | ok table =>
          simp only
          cases (TypesFile.write files place temporary true table
            settings.outputPath).result <;> rfl

/-- Runs that collect the same and write to the same path do the same. -/
theorem aggregate_congr {first second : Settings}
    (output : first.outputPath = second.outputPath)
    (collected : (collect first files place).2 =
      (collect second files place).2) (temporary : Text) :
    (aggregate first files place temporary).result =
        (aggregate second files place temporary).result ∧
      (aggregate first files place temporary).files =
        (aggregate second files place temporary).files := by
  rw [result_aggregate, result_aggregate, files_aggregate, files_aggregate,
    collected, output]
  exact ⟨rfl, rfl⟩

end

end PalletTypes.Aggregation
