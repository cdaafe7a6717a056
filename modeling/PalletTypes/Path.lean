import PalletTypes.Text.Encoding

/-!
# Paths

A path is a root and a list of names.  Reading a path drops empty segments and
`.`; the name `..` stays, because what it leads to depends on the file system.
Two leading slashes are a root of their own, three or more are one.  Joining
an absolute path replaces everything before it, and the parent of a path is
taken textually.
-/

namespace PalletTypes

inductive PathRoot where
  | relative
  | absolute
  | doubled
deriving DecidableEq, Repr

def slash : CodePoint := .scalar '/'

def PathRoot.text : PathRoot → Text
  | .relative => []
  | .absolute => [slash]
  | .doubled => [slash, slash]

/-- A segment that a path keeps. -/
def IsName (segment : Text) : Prop :=
  segment ≠ [] ∧ segment ≠ [.scalar '.'] ∧ slash ∉ segment

instance (segment : Text) : Decidable (IsName segment) :=
  inferInstanceAs (Decidable (_ ∧ _ ∧ _))

/-- The name that leads one directory up. -/
def upward : Text := [.scalar '.', .scalar '.']

/-- A root and the names below it. -/
structure Path where
  root : PathRoot
  names : List Text
  valid : ∀ name ∈ names, IsName name
deriving DecidableEq

namespace Path

def segments : Text → List Text
  | [] => [[]]
  | point :: rest =>
      if point = slash then [] :: segments rest
      else
        match segments rest with
        | [] => [[point]]
        | first :: others => (point :: first) :: others

/-- The root that a number of leading slashes spells. -/
def rootOfSlashes : Nat → PathRoot
  | 0 => .relative
  | 2 => .doubled
  | _ => .absolute

/-- The root that the leading slashes of a text spell. -/
def rootOf (text : Text) : PathRoot :=
  rootOfSlashes (text.takeWhile (· = slash)).length

/-- The path with these names, as far as they are names. -/
def ofNames (root : PathRoot) (names : List Text) : Path :=
  { root := root
    names := names.filter fun name => decide (IsName name)
    valid := by
      intro name member
      simpa using (List.mem_filter.mp member).2 }

def ofText (text : Text) : Path := ofNames (rootOf text) (segments text)

/-- The text of a path; a relative path without names is `.`. -/
def text (path : Path) : Text :=
  if path.root = .relative ∧ path.names = [] then [.scalar '.']
  else path.root.text ++ List.intercalate [slash] path.names

/-- Go on from the first path along the second. -/
def join (base next : Path) : Path :=
  if next.root = .relative then
    { root := base.root
      names := base.names ++ next.names
      valid := by
        intro name member
        rcases List.mem_append.mp member with inBase | inNext
        · exact base.valid name inBase
        · exact next.valid name inNext }
  else next

theorem names_join {base next : Path} (relative : next.root = .relative) :
    (base.join next).names = base.names ++ next.names := by
  simp [join, relative]

theorem root_join {base next : Path} (relative : next.root = .relative) :
    (base.join next).root = base.root := by
  simp [join, relative]

/-- An absolute path replaces what it is joined to. -/
theorem join_of_absolute {base next : Path}
    (absolute : next.root ≠ .relative) : base.join next = next := by
  simp [join, absolute]

def parent (path : Path) : Path :=
  { root := path.root
    names := path.names.dropLast
    valid := fun name member =>
      path.valid name (List.dropLast_subset _ member) }

/-- Follow names from the names `done`, each `..` cancelling the name before
it; at the start it has no effect. -/
def cancelOnto (done : List Text) : List Text → List Text
  | [] => done
  | name :: rest =>
      if name = upward then cancelOnto done.dropLast rest
      else cancelOnto (done ++ [name]) rest

def cancel (names : List Text) : List Text := cancelOnto [] names

theorem mem_of_mem_cancelOnto {name : Text} {done names : List Text}
    (member : name ∈ cancelOnto done names) : name ∈ done ∨ name ∈ names := by
  induction names generalizing done with
  | nil => exact Or.inl member
  | cons head rest ih =>
      unfold cancelOnto at member
      split at member
      · rcases ih member with inDone | inRest
        · exact Or.inl (List.dropLast_subset _ inDone)
        · exact Or.inr (List.mem_cons_of_mem _ inRest)
      · rcases ih member with inDone | inRest
        · rcases List.mem_append.mp inDone with old | new
          · exact Or.inl old
          · rw [List.mem_singleton.mp new]
            exact Or.inr List.mem_cons_self
        · exact Or.inr (List.mem_cons_of_mem _ inRest)

theorem mem_of_mem_cancel {name : Text} {names : List Text}
    (member : name ∈ cancel names) : name ∈ names := by
  simpa using mem_of_mem_cancelOnto member

/-- The absolute path without `..` that the text of the path names, seen from
an absolute base. -/
def absolute (base path : Path) : Path :=
  let joined := base.join path
  { root := joined.root
    names := cancel joined.names
    valid := fun name member =>
      joined.valid name (mem_of_mem_cancel member) }

/-- A path handed to the system has fewer bytes than this. -/
def maxBytes : Nat := 4096

/-- The path has too many bytes for the system. -/
def isTooLong (path : Path) : Bool := maxBytes ≤ path.text.byteSize

end Path

end PalletTypes
