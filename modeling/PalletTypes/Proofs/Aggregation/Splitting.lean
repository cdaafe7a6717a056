import PalletTypes.Proofs.Aggregation.Sources
import PalletTypes.Proofs.TypesFile.Spelling

/-!
# Types files that are cut in two

A key that is repeated in one file is treated by the reader as the merge treats
a name that is repeated in a later file: the first place and the last
definition win.  So the members of a file may be cut into two files anywhere,
whichever keys are repeated before, behind and across the cut, and however they
are spelled.
-/

namespace PalletTypes.Aggregation

section

variable {settings : Settings} {files : FileSystem} {place : Place}
  {first second whole : List (List Char × Json.Tree)}
  {one other joined : Text}

/-- A file is loaded as the merge of its two parts. -/
theorem load_of_parts
    (holdsFirst : TypesFile.HoldsMembers files place
      (settings.palletPath one) first)
    (holdsSecond : TypesFile.HoldsMembers files place
      (settings.palletPath other) second)
    (holdsWhole : TypesFile.HoldsMembers files place
      (settings.palletPath joined) whole)
    (same : Json.Tree.SameMembers whole (first ++ second))
    (readable : ∀ pallet ∈ [one, other, joined],
      IsReadable settings files place pallet) :
    TypesFile.load files place (settings.palletPath joined) =
      .ok (Merge.empty.addAll (sourcesIn (palletTable settings files place)
        [one, other])).table := by
  simp only [List.forall_mem_cons] at readable
  obtain ⟨readOne, readOther, readJoined, _⟩ := readable
  have loaded := load_of_isReadable readJoined
  -- The three files are compared by their pairs, where the repetitions are
  -- still there.
  obtain ⟨_, front, members, firstTable⟩ :=
    holdsFirst.load_eq_ok_iff.mp (load_of_isReadable readOne)
  obtain ⟨_, back, membersToo, secondTable⟩ :=
    holdsSecond.load_eq_ok_iff.mp (load_of_isReadable readOther)
  obtain ⟨_, pairs, all, wholeTable⟩ := holdsWhole.load_eq_ok_iff.mp loaded
  rw [same, Json.Tree.pairs?_append, members, membersToo] at all
  cases all
  have parts := Merge.table_addAll_parts front back one other
  rw [loaded, sourcesIn, List.map_cons, List.map_singleton, wholeTable,
    firstTable, secondTable, parts]

/-- A file may be cut in two anywhere: its two parts, listed in its place, lead
to the same collection, the order of the names included, and to the same run.
What is listed before and behind may fail; the outcome is then the same
failure. -/
theorem collect_of_split (settings : Settings) (files : FileSystem)
    (place : Place) (first second whole : List (List Char × Json.Tree))
    (one other joined : Text)
    (holdsFirst : TypesFile.HoldsMembers files place
      (settings.palletPath one) first)
    (holdsSecond : TypesFile.HoldsMembers files place
      (settings.palletPath other) second)
    (holdsWhole : TypesFile.HoldsMembers files place
      (settings.palletPath joined) whole)
    (same : Json.Tree.SameMembers whole (first ++ second))
    (readable : ∀ pallet ∈ [one, other, joined],
      IsReadable settings files place pallet) (before after : List Text) :
    let apart :=
      { settings with pallets := before ++ [one, other] ++ after }
    let together := { settings with pallets := before ++ [joined] ++ after }
    (collect together files place).2 = (collect apart files place).2 ∧
    ((∀ pallet ∈ before ++ after, IsReadable settings files place pallet) →
      ∃ table, (collect apart files place).2 = .ok table) ∧
    ∀ temporary,
      (aggregate together files place temporary).result =
          (aggregate apart files place temporary).result ∧
        (aggregate together files place temporary).files =
          (aggregate apart files place temporary).files := by
  intro apart together
  have readableParts : ∀ pallet ∈ [one, other],
      IsReadable settings files place pallet := fun pallet listed =>
    readable pallet (List.mem_append_left [joined] listed)
  have loaded : AreLoaded settings files place
      (sourcesIn (palletTable settings files place) [one, other]) :=
    areLoaded_sourcesIn_iff.mpr fun pallet listed =>
      load_of_isReadable (readableParts pallet listed)
  have collected : (collect together files place).2 =
      (collect apart files place).2 :=
    collect_of_merged loaded
      (load_of_parts holdsFirst holdsSecond holdsWhole same readable)
      before after
  refine ⟨collected, fun readableRest => ?_, ?_⟩
  · have all : ∀ pallet ∈ apart.pallets,
        IsReadable apart files place pallet := by
      simp only [apart, List.forall_mem_append] at readableRest ⊢
      exact ⟨⟨readableRest.1, readableParts⟩, readableRest.2⟩
    exact exists_collect_iff.mpr all
  · exact aggregate_congr (by rfl) collected

end

/-- Settings that list the two parts of a file between two other pallets, with
a seed that the second part replaces. -/
def splitting : Settings :=
  { baseDir := .ofText ""
    pallets := ["c", "a", "b", "c"]
    runtimeTypes := .ofPairs [("Y", .null)]
    customTypes := .empty
    logging := {} }

def splittingFiles : FileSystem :=
  ⟨[(["scripts"], .directory), (["pallets"], .directory),
    (["pallets", "a"], .directory), (["pallets", "b"], .directory),
    (["pallets", "c"], .directory), (["pallets", "ab"], .directory),
    (["pallets", "a", "types.json"],
      .file FileSystem.publicMode
        "\x7b\"X\":1,\"Z\":[],\"\\u0058\":2\x7d".toUTF8),
    (["pallets", "b", "types.json"],
      .file FileSystem.publicMode
        "\x7b\"Y\":\"u8\",\"X\":3\x7d".toUTF8),
    (["pallets", "c", "types.json"],
      .file FileSystem.publicMode "\x7b\"Z\":4\x7d".toUTF8),
    (["pallets", "ab", "types.json"],
      .file FileSystem.publicMode
        "\x7b\"X\":1,\"Z\":[],\"X\":2,\"Y\":\"u8\",\"X\":3\x7d".toUTF8)]⟩

def splittingPlain : List (List Char × Json.Tree) :=
  [(['X'], .number ['1']), (['Z'], .list []), (['X'], .number ['2'])]

/-- The same members with an escape in the last key. -/
def splittingFirst : List (List Char × Json.Tree) :=
  [(['X'], .number ['1']), (['Z'], .list []),
    ("\\u0058".toList, .number ['2'])]

def splittingSecond : List (List Char × Json.Tree) :=
  [(['Y'], .quoted "u8".toList), (['X'], .number ['3'])]

theorem sameMembers_splitting :
    Json.Tree.SameMembers splittingPlain splittingFirst := by
  have unquoted : Json.unquote? "\\u0058".toList = Json.unquote? ['X'] := by
    decide +kernel
  simp only [Json.Tree.SameMembers, splittingPlain, splittingFirst,
    Json.Tree.pairs?, unquoted]

def splittingTables (pallet : Text) : TypeTable :=
  if pallet = ("a" : Text) then
    .ofPairs [("X", .int 1), ("Z", .list []), ("X", .int 2)]
  else if pallet = ("b" : Text) then
    .ofPairs [("Y", .text "u8"), ("X", .int 3)]
  else .ofPairs [("Z", .int 4)]

theorem collect_of_split_splitting :
    ∃ table,
      (collect splitting splittingFiles ⟨["scripts"], 0⟩).2 = .ok table ∧
      (collect { splitting with pallets := ["c", "ab", "c"] } splittingFiles
        ⟨["scripts"], 0⟩).2 = .ok table ∧
      table.names = (["Y", "Z", "X"] : List Text) ∧
      table.get? "X" = some (.int 3) ∧
      table.get? "Y" = some (.text "u8") ∧
      table.get? "Z" = some (.int 4) := by
  have holdsFirst : TypesFile.HoldsMembers splittingFiles ⟨["scripts"], 0⟩
      (splitting.palletPath "a") splittingFirst := ⟨_, by rfl, by rfl⟩
  have holdsSecond : TypesFile.HoldsMembers splittingFiles ⟨["scripts"], 0⟩
      (splitting.palletPath "b") splittingSecond := ⟨_, by rfl, by rfl⟩
  have holdsWhole : TypesFile.HoldsMembers splittingFiles ⟨["scripts"], 0⟩
      (splitting.palletPath "ab") (splittingPlain ++ splittingSecond) :=
    ⟨_, by rfl, by rfl⟩
  have readA : TypesFile.load splittingFiles ⟨["scripts"], 0⟩
      (splitting.palletPath "a") = .ok (splittingTables "a") :=
    holdsFirst.load_eq_ok_iff.mpr
      ⟨by decide, _, sameMembers_splitting.symm.trans (by rfl), rfl⟩
  have readB : TypesFile.load splittingFiles ⟨["scripts"], 0⟩
      (splitting.palletPath "b") = .ok (splittingTables "b") :=
    holdsSecond.load_eq_ok_iff.mpr ⟨by decide, _, by rfl, rfl⟩
  have readC : TypesFile.load splittingFiles ⟨["scripts"], 0⟩
      (splitting.palletPath "c") = .ok (splittingTables "c") :=
    TypesFile.load_eq_ok_iff.mpr
      ⟨_, by rfl, TypesFile.decode_toUTF8 (by rfl)⟩
  have readWhole : IsReadable splitting splittingFiles ⟨["scripts"], 0⟩ "ab" :=
    ⟨_, holdsWhole.load_eq_ok_iff.mpr ⟨by decide, _, by rfl, rfl⟩⟩
  have readable : ∀ pallet ∈ (["a", "b", "ab"] : List Text),
      IsReadable splitting splittingFiles ⟨["scripts"], 0⟩ pallet := by
    simp only [List.forall_mem_cons]
    exact ⟨⟨_, readA⟩, ⟨_, readB⟩, readWhole, fun _ => nofun⟩
  have collected : (collect splitting splittingFiles ⟨["scripts"], 0⟩).2 =
      .ok (Merge.empty.addAll (seeds splitting ++
        sourcesIn splittingTables splitting.pallets)).table := by
    apply collect_of_tables
    simp only [splitting, List.forall_mem_cons]
    exact ⟨readC, readA, readB, readC, fun _ => nofun⟩
  obtain ⟨same, _, _⟩ := collect_of_split splitting splittingFiles
    ⟨["scripts"], 0⟩ splittingFirst splittingSecond
    (splittingPlain ++ splittingSecond) "a" "b" "ab" holdsFirst holdsSecond
    holdsWhole (sameMembers_splitting.append splittingSecond) readable
    ["c"] ["c"]
  refine ⟨_, collected, same.trans collected, ?_, ?_, ?_, ?_⟩
  · exact (Merge.names_addAll_empty _).trans (by rfl)
  · exact (Merge.get?_addAll_empty _ _).trans (by rfl)
  · exact (Merge.get?_addAll_empty _ _).trans (by rfl)
  · exact (Merge.get?_addAll_empty _ _).trans (by rfl)

end PalletTypes.Aggregation
