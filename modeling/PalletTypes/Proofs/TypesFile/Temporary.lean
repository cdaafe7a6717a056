import PalletTypes.Proofs.FileSystem.Landing
import PalletTypes.Proofs.Path.Names
import PalletTypes.Proofs.Text.ShownNames
import PalletTypes.TypesFile.Write

/-!
# Names of temporary files

The name of a temporary file has eight marks, each a small letter, a digit or
an underscore, and another one is picked while a file of the name exists.  All
these names have the same size and nothing unfit in them, so where a file can
be created under one of them, it can be created under every other that is
free.
-/

namespace PalletTypes.TypesFile

def isMarkChar (char : Char) : Bool :=
  ('a' ≤ char && char ≤ 'z') || char.isDigit || char == '_'

/-- A name that a temporary file can have. -/
def IsTemporaryName (name : Text) : Prop :=
  ∃ mark : List Char, mark.length = 8 ∧ mark.all isMarkChar = true ∧
    name = temporaryName (Text.ofChars mark)

/-- A name that the temporary file of a writing can have: nothing stands under
it. -/
structure MayPick (files : FileSystem) (place : Place) (path : Path)
    (name : Text) : Prop where
  isTemporary : IsTemporaryName name
  free : ∀ directory, stagingDirectory? place path = some directory →
    files.create .top directory name ≠ .error (.refused .alreadyExists)

/-- A character of one byte that may stand in a name. -/
def isPlain (char : Char) : Bool :=
  char.utf8Size == 1 && char != '/' && char != '\x00'

theorem isPlain_iff {char : Char} :
    isPlain char = true ↔
      char.utf8Size = 1 ∧ char ≠ '/' ∧ char ≠ '\x00' := by
  simp [isPlain, and_assoc]

theorem isPlain_of_isMarkChar {char : Char}
    (isMark : isMarkChar char = true) : isPlain char = true := by
  have bounds : 0x30 ≤ char.toNat ∧ char.toNat ≤ 0x7f := by
    simp only [isMarkChar, Bool.or_eq_true, Bool.and_eq_true,
      decide_eq_true_eq, beq_iff_eq, Char.le_def] at isMark
    rcases isMark with (small | digit) | rfl
    · simp [UInt32.le_iff_toNat_le] at small
      omega
    · simp [Char.isDigit, UInt32.le_iff_toNat_le] at digit
      omega
    · decide
  have different : ∀ other : Char, other.toNat < 0x30 → char ≠ other := by
    rintro other low rfl
    omega
  have oneByte : char.utf8Size = 1 :=
    Char.utf8Size_eq_one_iff.mpr (UInt32.le_iff_toNat_le.mpr bounds.2)
  exact isPlain_iff.mpr ⟨oneByte, different '/' (by decide),
    different '\x00' (by decide)⟩

namespace IsTemporaryName

variable {name : Text}

/-- Every name of a temporary file has eighteen plain characters. -/
theorem exists_chars (isTemporary : IsTemporaryName name) :
    ∃ chars, name = Text.ofChars ('.' :: 't' :: chars) ∧
      chars.length = 16 ∧
      ∀ char ∈ '.' :: 't' :: chars, isPlain char = true := by
  obtain ⟨mark, length, marks, rfl⟩ := isTemporary
  refine ⟨['m', 'p', '_'] ++ mark ++ ['.', 'j', 's', 'o', 'n'], ?_, ?_, ?_⟩
  · simp [temporaryName, Text.ofChars, Text.ofString]
  · simp [length]
  · have front : ['.', 't', 'm', 'p', '_'].all isPlain = true := by decide
    have back : ['.', 'j', 's', 'o', 'n'].all isPlain = true := by decide
    rw [List.all_eq_true] at marks front back
    intro char member
    have parts : char ∈ ['.', 't', 'm', 'p', '_'] ++ mark ++
        ['.', 'j', 's', 'o', 'n'] := by
      simpa using member
    rcases List.mem_append.mp parts with inFront | inBack
    · rcases List.mem_append.mp inFront with inFront | inMark
      · exact front char inFront
      · exact isPlain_of_isMarkChar (marks char inMark)
    · exact back char inBack

theorem byteSize_eq (isTemporary : IsTemporaryName name) :
    name.byteSize = 18 := by
  obtain ⟨chars, rfl, length, plain⟩ := isTemporary.exists_chars
  rw [Text.byteSize_ofChars fun char member =>
    (isPlain_iff.mp (plain char member)).1]
  simp [length]

theorem isName (isTemporary : IsTemporaryName name) : IsName name := by
  obtain ⟨chars, rfl, _, plain⟩ := isTemporary.exists_chars
  refine ⟨by simp [Text.ofChars], by simp [Text.ofChars], ?_⟩
  intro member
  obtain ⟨char, inChars, isSlash⟩ := List.mem_map.mp member
  have noSlash := (isPlain_iff.mp (plain char inChars)).2.1
  apply noSlash
  exact CodePoint.scalar.inj isSlash

theorem not_isUnfit (isTemporary : IsTemporaryName name) :
    ∀ point ∈ name, ¬point.IsUnfit := by
  obtain ⟨chars, rfl, _, plain⟩ := isTemporary.exists_chars
  intro point member
  obtain ⟨char, inChars, rfl⟩ := List.mem_map.mp member
  rintro (isNul | ⟨surrogate, _⟩)
  · have noNul := (isPlain_iff.mp (plain char inChars)).2.2
    apply noNul
    exact CodePoint.scalar.inj isNul
  · exact nomatch surrogate

theorem isAscii (isTemporary : IsTemporaryName name) :
    ∀ point ∈ name, point.IsAscii := by
  obtain ⟨chars, rfl, _, plain⟩ := isTemporary.exists_chars
  intro point member
  obtain ⟨char, inChars, rfl⟩ := List.mem_map.mp member
  have oneByte := (isPlain_iff.mp (plain char inChars)).1
  have small := UInt32.le_iff_toNat_le.mp (Char.utf8Size_eq_one_iff.mp oneByte)
  exact Nat.lt_succ_of_le small

theorem shownName_eq (isTemporary : IsTemporaryName name) :
    name.shownName = name := by
  obtain ⟨chars, rfl, _, _⟩ := isTemporary.exists_chars
  exact Text.shownName_of_isScalar (Text.isScalar_ofChars _)

theorem ne_upward (isTemporary : IsTemporaryName name) : name ≠ upward := by
  obtain ⟨chars, rfl, _, _⟩ := isTemporary.exists_chars
  simp [Text.ofChars, upward]

/-- Every directory that has not been removed admits a temporary name. -/
theorem admits (isTemporary : IsTemporaryName name) {parent : Place}
    (present : parent.removed = 0) : parent.Admits name :=
  ⟨isTemporary.ne_upward, present, by
    rw [isTemporary.byteSize_eq]
    decide⟩

end IsTemporaryName

/-- A location under a name that a temporary file can have. -/
def IsTemporaryLocation (location : Location) : Prop :=
  ∃ directory name, IsTemporaryName name ∧ location = directory ++ [name]

/-- What stands under a name has a temporary location only if the name itself
is one of a temporary file. -/
theorem isTemporaryLocation_child_iff {parent : Place} {name : Text} :
    IsTemporaryLocation (parent.child name) ↔ IsTemporaryName name := by
  constructor
  · rintro ⟨directory, temporary, isTemporary, same⟩
    have shown := (List.append_inj' same rfl).2
    have equality := Text.eq_of_shownName_eq isTemporary.isAscii
      (List.singleton_inj.mp shown)
    exact equality ▸ isTemporary
  · intro isTemporary
    exact ⟨parent.location, name, isTemporary, by
      rw [Place.child, isTemporary.shownName_eq]⟩

section

variable {files : FileSystem} {directory : Path} {parent : Place} {name : Text}

/-- A file can be created under a temporary name in a directory that exists, if
nothing stands there. -/
theorem create_of_vacant
    (accepted : (directory.join (.ofText name)).refusal? = none)
    (entered : files.enter .top directory = .ok parent)
    (present : parent.removed = 0) (isTemporary : IsTemporaryName name)
    (vacant : files.node? (parent.child name) = none) :
    ∃ location created,
      files.create .top directory name = .ok (location, created) := by
  have success := FileSystem.create_eq_ok_iff.mpr ⟨accepted, parent, entered,
    isTemporary.admits present, rfl, vacant, rfl⟩
  exact ⟨_, _, success⟩

/-- So the system may pick such a name. -/
theorem mayPick_of_vacant {place : Place} {path : Path}
    (staging : stagingDirectory? place path = some directory)
    (accepted : (directory.join (.ofText name)).refusal? = none)
    (entered : files.enter .top directory = .ok parent)
    (present : parent.removed = 0) (isTemporary : IsTemporaryName name)
    (vacant : files.node? (parent.child name) = none) :
    MayPick files place path name where
  isTemporary := isTemporary
  free := by
    obtain ⟨location, created, success⟩ :=
      create_of_vacant accepted entered present isTemporary vacant
    intro other found
    cases staging.symm.trans found
    rw [success]
    exact fun refused => nomatch refused

/-- A file can be created under a temporary name that is free in a directory
that exists. -/
theorem create_of_entered
    (accepted : (directory.join (.ofText name)).refusal? = none)
    (entered : files.enter .top directory = .ok parent)
    (present : parent.removed = 0) (isTemporary : IsTemporaryName name)
    (free : files.create .top directory name ≠
      .error (.refused .alreadyExists)) :
    ∃ location created,
      files.create .top directory name = .ok (location, created) := by
  apply create_of_vacant accepted entered present isTemporary
  cases standing : files.node? (parent.child name) with
  | none => rfl
  | some node =>
      exfalso
      apply free
      have found :=
        FileSystem.find_of_admits (isTemporary.admits present) files
      rw [standing] at found
      unfold FileSystem.create FileSystem.vacancy
      rw [accepted, entered]
      cases node <;> simp [found, Spot.ofNode?]

end

/-- Where a file could be created under one temporary name, another one can be
created under every temporary name that is free. -/
theorem create_of_create {files created other : FileSystem}
    {directory : Path} {first second : Text} {location : Location}
    (success : files.create .top directory first = .ok (location, created))
    (keeps : files.KeepsDirectories other)
    (isFirst : IsTemporaryName first) (isSecond : IsTemporaryName second)
    (free : other.create .top directory second ≠
      .error (.refused .alreadyExists)) :
    ∃ location created,
      other.create .top directory second = .ok (location, created) := by
  obtain ⟨accepted, parent, entered, admitted, _, _, _⟩ :=
    FileSystem.create_eq_ok_iff.mp success
  have acceptedSecond := Path.refusal?_join_ofText isFirst.isName
    isSecond.isName isSecond.not_isUnfit
    (isFirst.byteSize_eq.trans isSecond.byteSize_eq.symm) accepted
  exact create_of_entered acceptedSecond (keeps.enter entered) admitted.2.1
    isSecond free

end PalletTypes.TypesFile
