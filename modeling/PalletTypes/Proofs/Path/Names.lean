import PalletTypes.Proofs.Path.Defects

/-!
# Names and sizes of paths

A text that is a name spells the path with this name only.  Whether the system
takes a path depends on the sizes of its names and on what is unfit in them.
-/

namespace PalletTypes

namespace Text

theorem byteSize_append (first second : Text) :
    byteSize (first ++ second) = byteSize first + byteSize second := by
  induction first with
  | nil => simp [byteSize]
  | cons point rest ih => simp [byteSize, ih, Nat.add_assoc]

theorem byteSize_ofChars {chars : List Char}
    (small : ∀ char ∈ chars, char.utf8Size = 1) :
    byteSize (ofChars chars) = chars.length := by
  induction chars with
  | nil => rfl
  | cons char rest ih =>
      rw [List.forall_mem_cons] at small
      have tail : byteSize (List.map .scalar rest) = rest.length :=
        ih small.2
      simp [ofChars, byteSize, CodePoint.byteSize, small.1, tail]
      omega

end Text

namespace Path

theorem segments_of_no_slash {text : Text} (noSlash : slash ∉ text) :
    segments text = [text] := by
  induction text with
  | nil => rfl
  | cons point rest ih =>
      rw [List.mem_cons, not_or] at noSlash
      rw [segments, if_neg (Ne.symm noSlash.1), ih noSlash.2]

/-- A name spells the relative path with this name only. -/
theorem ofText_of_isName {name : Text} (isName : IsName name) :
    (ofText name).root = .relative ∧ (ofText name).names = [name] := by
  obtain ⟨nonempty, notDot, noSlash⟩ := isName
  constructor
  · cases name with
    | nil => exact absurd rfl nonempty
    | cons point rest =>
        rw [List.mem_cons, not_or] at noSlash
        exact root_ofText_cons (Ne.symm noSlash.1) rest
  · simp [ofText, ofNames, segments_of_no_slash noSlash, IsName, nonempty,
      notDot, noSlash]

/-- The number of bytes of names with a slash before each of them. -/
def namesSize : List Text → Nat
  | [] => 0
  | name :: names => 1 + name.byteSize + namesSize names

theorem namesSize_append (first second : List Text) :
    namesSize (first ++ second) = namesSize first + namesSize second := by
  induction first with
  | nil => simp [namesSize]
  | cons name names ih => simp [namesSize, ih, Nat.add_assoc]

theorem namesSize_replicate (count : Nat) (name : Text) :
    namesSize (List.replicate count name) = count * (1 + name.byteSize) := by
  induction count with
  | zero => simp [namesSize]
  | succ count ih =>
      rw [List.replicate_succ, namesSize, ih, Nat.succ_mul, Nat.add_comm]

theorem byteSize_intercalate {names : List Text} (nonempty : names ≠ []) :
    Text.byteSize (List.intercalate [slash] names) + 1 = namesSize names := by
  have slashSize : Text.byteSize [slash] = 1 := by decide
  induction names with
  | nil => exact absurd rfl nonempty
  | cons name names ih =>
      cases names with
      | nil => simp [namesSize, Nat.add_comm]
      | cons next names =>
          have later := ih (List.cons_ne_nil next names)
          rw [List.intercalate_cons_cons, Text.byteSize_append,
            Text.byteSize_append, slashSize, namesSize]
          omega

/-- The size of a path is told by its root and its names. -/
theorem byteSize_text {path : Path} (nonempty : path.names ≠ []) :
    path.text.byteSize + 1 =
      path.root.text.byteSize + namesSize path.names := by
  rw [text, if_neg (fun shape => nonempty shape.2), Text.byteSize_append,
    Nat.add_assoc, byteSize_intercalate nonempty]

/-- Names of the same size that the system takes are refused together. -/
theorem refusal?_join_ofText {directory : Path} {first second : Text}
    (isFirst : IsName first) (isSecond : IsName second)
    (fits : ∀ point ∈ second, ¬point.IsUnfit)
    (sameSize : first.byteSize = second.byteSize)
    (accepted : (directory.join (ofText first)).refusal? = none) :
    (directory.join (ofText second)).refusal? = none := by
  obtain ⟨relativeFirst, namesFirst⟩ := ofText_of_isName isFirst
  obtain ⟨relativeSecond, namesSecond⟩ := ofText_of_isName isSecond
  obtain ⟨sound, short⟩ := refusal?_eq_none_iff.mp accepted
  rw [defect?_join_eq_none_iff relativeFirst] at sound
  have fitsSecond : (ofText second).defect? = none := by
    rw [defect?_eq_none_iff, namesSecond]
    simpa using fits
  have soundSecond : (directory.join (ofText second)).defect? = none :=
    (defect?_join_eq_none_iff relativeSecond).mpr ⟨sound.1, fitsSecond⟩
  have namedFirst : (directory.join (ofText first)).names ≠ [] := by
    simp [names_join relativeFirst, namesFirst]
  have namedSecond : (directory.join (ofText second)).names ≠ [] := by
    simp [names_join relativeSecond, namesSecond]
  have sizeFirst := byteSize_text namedFirst
  have sizeSecond := byteSize_text namedSecond
  simp only [root_join relativeFirst, names_join relativeFirst, namesFirst,
    namesSize_append, namesSize] at sizeFirst
  simp only [root_join relativeSecond, names_join relativeSecond, namesSecond,
    namesSize_append, namesSize] at sizeSecond
  have sameText : (directory.join (ofText first)).text.byteSize =
      (directory.join (ofText second)).text.byteSize := by
    omega
  have shortSecond : (directory.join (ofText second)).isTooLong = false := by
    simpa [isTooLong, sameText] using short
  exact refusal?_eq_none_iff.mpr ⟨soundSecond, shortSecond⟩

end Path

end PalletTypes
