import PalletTypes.Proofs.Aggregation.Collection

/-!
# Pallets in another order

In which order pallets are listed does not decide whether they can be
collected, nor which names the result has.  It decides the definitions only
where two pallets define the same name differently; the seeds come first in
every order, so they may disagree with the pallets.
-/

namespace PalletTypes

/-- Any two sources define a name that they share alike. -/
def AgreeOnShared (sources : List (Text × TypeTable)) : Prop :=
  ∀ one ∈ sources, ∀ other ∈ sources, ∀ name ∈ one.2.names,
    name ∈ other.2.names → one.2.get? name = other.2.get? name

section

variable {sources others : List (Text × TypeTable)} {name : Text}

/-- Where sources agree, a definition that any of them gives is the last one. -/
theorem lastDefinition?_eq_some_iff_of_agree (agree : AgreeOnShared sources)
    {definition : Value} :
    lastDefinition? name sources = some definition ↔
      ∃ source ∈ sources, source.2.get? name = some definition := by
  constructor
  · intro last
    obtain ⟨before, source, after, rfl, found, _⟩ :=
      lastDefinition?_eq_some_iff.mp last
    exact ⟨source, by simp, found⟩
  · rintro ⟨source, member, found⟩
    cases last : lastDefinition? name sources with
    | none =>
        have missing := List.findSome?_eq_none_iff.mp last source
          (List.mem_reverse.mpr member)
        exact nomatch found.symm.trans missing
    | some survivor =>
        obtain ⟨before, other, after, rfl, survives, _⟩ :=
          lastDefinition?_eq_some_iff.mp last
        have same := agree source member other (by simp) name
          (TypeTable.mem_names_of_get? found)
          (TypeTable.mem_names_of_get? survives)
        rw [← survives, ← same, found]

/-- Among sources that agree, neither order nor number matters for what is
defined last. -/
theorem lastDefinition?_of_mem_iff (agree : AgreeOnShared sources)
    (sameMembers : ∀ source, source ∈ sources ↔ source ∈ others) :
    lastDefinition? name sources = lastDefinition? name others := by
  have agreeToo : AgreeOnShared others := by
    simpa only [AgreeOnShared, sameMembers] using agree
  apply Option.ext
  intro definition
  rw [lastDefinition?_eq_some_iff_of_agree agree,
    lastDefinition?_eq_some_iff_of_agree agreeToo]
  simp only [sameMembers]

namespace Merge

variable {front : List (Text × TypeTable)}

theorem mem_names_addAll :
    name ∈ (empty.addAll sources).table.names ↔
      ∃ source ∈ sources, name ∈ source.2.names := by
  rw [names_addAll_empty, mem_firstOccurrences, mem_sourceNames]

/-- Sources in another order bring the same names to a merge. -/
theorem mem_names_addAll_of_mem_iff
    (sameMembers : ∀ source, source ∈ sources ↔ source ∈ others) :
    name ∈ (empty.addAll (front ++ sources)).table.names ↔
      name ∈ (empty.addAll (front ++ others)).table.names := by
  simp only [mem_names_addAll, List.mem_append, sameMembers]

/-- Behind the same front, sources that agree can be merged in any order. -/
theorem get?_addAll_of_mem_iff (agree : AgreeOnShared sources)
    (sameMembers : ∀ source, source ∈ sources ↔ source ∈ others) :
    (empty.addAll (front ++ sources)).table.get? name =
      (empty.addAll (front ++ others)).table.get? name := by
  rw [get?_addAll_empty, get?_addAll_empty, lastDefinition?_append,
    lastDefinition?_append, lastDefinition?_of_mem_iff agree sameMembers]

end Merge

end

namespace Aggregation

/-- Any two of the pallets that can be read define a name that they share
alike. -/
def PalletsAgree (settings : Settings) (files : FileSystem) (place : Place) :
    Prop :=
  ∀ one ∈ settings.pallets, ∀ other ∈ settings.pallets,
    ∀ left right,
      TypesFile.load files place (settings.palletPath one) = .ok left →
      TypesFile.load files place (settings.palletPath other) = .ok right →
      ∀ name ∈ left.names, name ∈ right.names →
        left.get? name = right.get? name

section

variable {settings : Settings} {files : FileSystem} {place : Place}

theorem agreeOnShared_of_palletsAgree
    (agree : PalletsAgree settings files place)
    (readable : ∀ pallet ∈ settings.pallets,
      IsReadable settings files place pallet) :
    AgreeOnShared (sourcesIn (palletTable settings files place)
      settings.pallets) := by
  simp only [AgreeOnShared, sourcesIn, List.forall_mem_map]
  intro one listed other otherListed
  exact agree one listed other otherListed _ _
    (load_of_isReadable (readable one listed))
    (load_of_isReadable (readable other otherListed))

/-- Pallets listed in another order can be collected if they can be collected
at all, with the same names, and with the same definitions if the pallets
agree on what they share. -/
theorem collect_of_perm (settings : Settings) (files : FileSystem)
    (place : Place) (reordered : List Text)
    (permutation : settings.pallets.Perm reordered) :
    let resettled := { settings with pallets := reordered }
    ((∃ table, (collect settings files place).2 = .ok table) ↔
      ∃ table, (collect resettled files place).2 = .ok table) ∧
    ∀ left right, (collect settings files place).2 = .ok left →
      (collect resettled files place).2 = .ok right →
      (∀ name, name ∈ left.names ↔ name ∈ right.names) ∧
      (PalletsAgree settings files place →
        ∀ name, left.get? name = right.get? name) := by
  intro resettled
  have sameReadable : (∀ pallet ∈ settings.pallets,
      IsReadable settings files place pallet) ↔
        ∀ pallet ∈ reordered, IsReadable settings files place pallet := by
    simp only [permutation.mem_iff]
  have recollects : (∃ table, (collect resettled files place).2 = .ok table) ↔
      ∀ pallet ∈ reordered, IsReadable settings files place pallet :=
    exists_collect_iff
  refine ⟨exists_collect_iff.trans (sameReadable.trans recollects.symm), ?_⟩
  intro left right collected recollected
  have readable := isReadable_of_collect collected
  have sameSources : ∀ source,
      source ∈ sourcesIn (palletTable settings files place)
          settings.pallets ↔
        source ∈ sourcesIn (palletTable settings files place) reordered := by
    simp only [sourcesIn, List.mem_map, permutation.mem_iff, implies_true]
  cases collected.symm.trans (collect_of_isReadable readable)
  cases recollected.symm.trans
    (collect_of_isReadable (isReadable_of_collect recollected))
  refine ⟨fun name => Merge.mem_names_addAll_of_mem_iff sameSources, ?_⟩
  intro agree name
  exact Merge.get?_addAll_of_mem_iff
    (agreeOnShared_of_palletsAgree agree readable) sameSources

end

/-- Settings with two pallets that agree on the name they share; one of them
disagrees with the seeds. -/
def agreeing : Settings :=
  { baseDir := .ofText ""
    pallets := ["a", "b", "a"]
    runtimeTypes := Settings.defaultRuntimeTypes
    customTypes := Settings.defaultCustomTypes
    logging := {} }

def agreeingFiles : FileSystem :=
  ⟨[(["scripts"], .directory), (["pallets"], .directory),
    (["pallets", "a"], .directory), (["pallets", "b"], .directory),
    (["pallets", "a", "types.json"],
      .file FileSystem.publicMode "\x7b\"Y\":[],\"X\":1\x7d".toUTF8),
    (["pallets", "b", "types.json"],
      .file FileSystem.publicMode
        "\x7b\"X\":1,\"Address\":\"u8\"\x7d".toUTF8)]⟩

def agreeingTables (pallet : Text) : TypeTable :=
  if pallet = ("a" : Text) then .ofPairs [("Y", .list []), ("X", .int 1)]
  else .ofPairs [("X", .int 1), ("Address", .text "u8")]

theorem load_agreeing : ∀ pallet ∈ agreeing.pallets,
    TypesFile.load agreeingFiles ⟨["scripts"], 0⟩
      (agreeing.palletPath pallet) = .ok (agreeingTables pallet) := by
  have readA : TypesFile.load agreeingFiles ⟨["scripts"], 0⟩
      (agreeing.palletPath "a") = .ok (agreeingTables "a") :=
    TypesFile.load_eq_ok_iff.mpr
      ⟨_, by rfl, TypesFile.decode_toUTF8 (by rfl)⟩
  have readB : TypesFile.load agreeingFiles ⟨["scripts"], 0⟩
      (agreeing.palletPath "b") = .ok (agreeingTables "b") :=
    TypesFile.load_eq_ok_iff.mpr
      ⟨_, by rfl, TypesFile.decode_toUTF8 (by rfl)⟩
  simp only [agreeing, List.forall_mem_cons]
  exact ⟨readA, readB, readA, fun pallet listed => nomatch listed⟩

theorem palletsAgree_agreeing :
    PalletsAgree agreeing agreeingFiles ⟨["scripts"], 0⟩ := by
  have onlyX : ∀ name ∈ (agreeingTables "a").names,
      name ∈ (agreeingTables "b").names → name = ("X" : Text) := by decide
  have shared : ∀ name ∈ (agreeingTables "a").names,
      name ∈ (agreeingTables "b").names →
        (agreeingTables "a").get? name = (agreeingTables "b").get? name := by
    intro name inA inB
    rw [onlyX name inA inB]
    rfl
  intro one listed other otherListed left right readLeft readRight name
    inLeft inRight
  cases readLeft.symm.trans (load_agreeing one listed)
  cases readRight.symm.trans (load_agreeing other otherListed)
  have cases_of_listed : ∀ pallet ∈ agreeing.pallets,
      pallet = ("a" : Text) ∨ pallet = ("b" : Text) := by decide
  rcases cases_of_listed one listed with rfl | rfl <;>
    rcases cases_of_listed other otherListed with rfl | rfl
  · rfl
  · exact shared name inLeft inRight
  · exact (shared name inRight inLeft).symm
  · rfl

/-- The places of the names still differ. -/
theorem collect_of_perm_agreeing :
    ∃ left right,
      (collect agreeing agreeingFiles ⟨["scripts"], 0⟩).2 = .ok left ∧
      (collect { agreeing with pallets := ["b", "a", "a"] } agreeingFiles
        ⟨["scripts"], 0⟩).2 = .ok right ∧
      (∀ name, left.get? name = right.get? name) ∧
      left.get? "Address" = some (.text "u8") ∧
      left.names =
        (["Address", "LookupSource", "IpfsCid", "Y", "X"] : List Text) ∧
      right.names =
        (["Address", "LookupSource", "IpfsCid", "X", "Y"] : List Text) := by
  have permutation : agreeing.pallets.Perm ["b", "a", "a"] := by decide
  have collected := collect_of_tables load_agreeing
  have recollected : (collect
      { agreeing with pallets := ["b", "a", "a"] } agreeingFiles
      ⟨["scripts"], 0⟩).2 = _ :=
    collect_of_tables fun pallet listed =>
      load_agreeing pallet (permutation.mem_iff.mpr listed)
  obtain ⟨_, definitions⟩ := (collect_of_perm agreeing agreeingFiles
    ⟨["scripts"], 0⟩ _ permutation).2 _ _ collected recollected
  refine ⟨_, _, collected, recollected,
    definitions palletsAgree_agreeing, ?_, ?_, ?_⟩
  · exact (Merge.get?_addAll_empty _ _).trans (by rfl)
  · exact (Merge.names_addAll_empty _).trans (by rfl)
  · exact (Merge.names_addAll_empty _).trans (by rfl)

end Aggregation

end PalletTypes
