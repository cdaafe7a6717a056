import PalletTypes.Entries
import PalletTypes.Value

/-!
# Type tables

A type table maps type names to definitions and keeps the order in which the
names were first given.  Its names are distinct by construction.
-/

namespace PalletTypes

/-- An ordered mapping from type names to definitions. -/
structure TypeTable where
  entries : List (Text × Value)
  distinct : (Entries.keys entries).Nodup

namespace TypeTable

def empty : TypeTable := ⟨[], by simp [Entries.keys]⟩

/-- Put every pair in turn: the newer definition of a name wins, the name
keeps its place. -/
def putAll (table : TypeTable) (pairs : List (Text × Value)) : TypeTable :=
  ⟨Entries.putAll table.entries pairs,
    Entries.nodup_keys_putAll pairs table.distinct⟩

def put (table : TypeTable) (name : Text) (definition : Value) : TypeTable :=
  ⟨Entries.put name definition table.entries,
    Entries.nodup_keys_put name definition table.distinct⟩

/-- The table that a list of pairs stands for. -/
def ofPairs (pairs : List (Text × Value)) : TypeTable := empty.putAll pairs

/-- The table of aliases from one name to another. -/
def ofAliases (aliases : List (String × String)) : TypeTable :=
  ofPairs (aliases.map fun pair =>
    (Text.ofString pair.1, .text (Text.ofString pair.2)))

def names (table : TypeTable) : List Text := Entries.keys table.entries

def get? (table : TypeTable) (name : Text) : Option Value :=
  Entries.get? name table.entries

def size (table : TypeTable) : Nat := table.entries.length

def toValue (table : TypeTable) : Value := .mapping table.entries

@[simp] theorem length_names (table : TypeTable) :
    table.names.length = table.size := by
  simp [names, size, Entries.keys]

@[ext] theorem ext {left right : TypeTable}
    (equality : left.entries = right.entries) : left = right := by
  cases left
  cases right
  simp_all

end TypeTable

end PalletTypes
