import PalletTypes.Log.Record
import PalletTypes.TypeTable

/-!
# Merging type tables

Tables are merged in order, each under the name of its source.  A name that is
present takes the newer definition and keeps its place.
-/

namespace PalletTypes

/-- Tables merged so far and the names of their sources, in order. -/
structure Merge where
  table : TypeTable
  sources : List Text

namespace Merge

def empty : Merge := ⟨.empty, []⟩

def add (merge : Merge) (source : Text) (table : TypeTable) : Merge :=
  ⟨merge.table.putAll table.entries, merge.sources ++ [source]⟩

def addAll (merge : Merge) (sources : List (Text × TypeTable)) : Merge :=
  sources.foldl (fun merge source => merge.add source.1 source.2) merge

@[simp] theorem sources_add (merge : Merge) (source : Text)
    (table : TypeTable) :
    (merge.add source table).sources = merge.sources ++ [source] := rfl

@[simp] theorem addAll_nil (merge : Merge) : merge.addAll [] = merge := rfl

@[simp] theorem addAll_cons (merge : Merge) (source : Text × TypeTable)
    (sources : List (Text × TypeTable)) :
    merge.addAll (source :: sources) =
      (merge.add source.1 source.2).addAll sources := rfl

theorem addAll_append (merge : Merge)
    (first second : List (Text × TypeTable)) :
    merge.addAll (first ++ second) = (merge.addAll first).addAll second := by
  simp [addAll]

/-- The record of a table that has been merged. -/
def record (source : Text) (table : TypeTable) : Log.Record :=
  { level := .debug
    logger := Log.Logger.merge
    message :=
      "Merged " ++ Text.ofNat table.size ++ " types from '" ++ source ++ "'" }

end Merge

end PalletTypes
