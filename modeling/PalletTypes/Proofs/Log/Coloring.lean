import PalletTypes.Proofs.Log.Rows
import PalletTypes.Proofs.Log.Written

/-!
# The level in a colored line

A console line is put in color by replacing the first occurrence of its level
name, wherever that is.  In front of the level column there are only digits,
colons and blanks, so a level name that begins with none of these occurs in its
own column first.  The line in color is then the plain line with two codes put
in around the level name, whatever the message and the failure hold.
-/

namespace PalletTypes

namespace Text

/-- A text with another one put in at an offset. -/
def insertAt (offset : Nat) (inserted text : Text) : Text :=
  text.take offset ++ inserted ++ text.drop offset

/-- A text without so many code points from an offset on. -/
def removeAt (offset count : Nat) (text : Text) : Text :=
  text.take offset ++ text.drop (offset + count)

section

variable {offset : Nat} {front : Text} (length : front.length = offset)
include length

theorem insertAt_append (inserted rest : Text) :
    insertAt offset inserted (front ++ rest) = front ++ inserted ++ rest := by
  rw [insertAt, List.take_left' length, List.drop_left' length]

theorem removeAt_append (removed rest : Text) :
    removeAt offset removed.length (front ++ removed ++ rest) =
      front ++ rest := by
  have lengthBoth : (front ++ removed).length = offset + removed.length := by
    rw [List.length_append, length]
  rw [removeAt, List.drop_left' lengthBoth, List.append_assoc,
    List.take_left' length]

/-- One text put in before a part and another one behind it. -/
theorem insertAt_around (before part after back : Text) :
    insertAt offset before
        (insertAt (offset + part.length) after (front ++ part ++ back)) =
      front ++ (before ++ part ++ after) ++ back := by
  have lengthBoth : (front ++ part).length = offset + part.length := by
    rw [List.length_append, length]
  rw [insertAt_append lengthBoth, List.append_assoc, List.append_assoc,
    insertAt_append length]
  simp

theorem removeAt_around (before part after back : Text) :
    removeAt offset before.length
        (removeAt (offset + before.length + part.length) after.length
          (front ++ (before ++ part ++ after) ++ back)) =
      front ++ part ++ back := by
  have lengthAll : (front ++ before ++ part).length =
      offset + before.length + part.length := by
    rw [List.length_append, List.length_append, length]
  have regrouped : front ++ (before ++ part ++ after) ++ back =
      front ++ before ++ part ++ after ++ back := by
    simp
  rw [regrouped, removeAt_append lengthAll, List.append_assoc (front ++ before),
    removeAt_append length, List.append_assoc]

end

theorem filling_zero (text : Text) : filling 0 text = [] := by
  rw [filling, Nat.zero_sub, List.replicate_zero]

end Text

namespace Log

/-! ## The first occurrence -/

/-- No occurrence of a pattern begins where its first code point does not
stand. -/
theorem cutAtFirst_append {first : CodePoint} {front : Text}
    (absent : first ∉ front) (pattern before rest : Text) :
    cutAtFirst (first :: pattern) before (front ++ rest) =
      cutAtFirst (first :: pattern) (front.reverse ++ before) rest := by
  induction front generalizing before with
  | nil => rfl
  | cons point front ih =>
      rw [List.mem_cons, not_or] at absent
      have noOccurrence :
          (first :: pattern).isPrefixOf (point :: (front ++ rest)) = false := by
        rw [Bool.eq_false_iff, ne_eq, List.isPrefixOf_iff_prefix,
          List.cons_prefix_cons]
        exact fun occurs => absent.1 occurs.1
      rw [List.cons_append, cutAtFirst, noOccurrence, if_neg Bool.false_ne_true,
        ih absent.2, List.reverse_cons, List.append_assoc,
        List.singleton_append]

theorem cutAtFirst_here (first : CodePoint) (pattern before rest : Text) :
    cutAtFirst (first :: pattern) before (first :: pattern ++ rest) =
      some (before.reverse, rest) := by
  have occurs : (first :: pattern).isPrefixOf (first :: pattern ++ rest) =
      true := List.isPrefixOf_iff_prefix.mpr (List.prefix_append _ _)
  rw [List.cons_append] at occurs ⊢
  rw [cutAtFirst, if_pos occurs, ← List.cons_append, List.drop_left]

theorem replaceFirst_append {first : CodePoint} {front : Text}
    (absent : first ∉ front) (pattern replacement rest : Text) :
    replaceFirst (first :: pattern) replacement
        (front ++ first :: pattern ++ rest) =
      front ++ replacement ++ rest := by
  rw [replaceFirst, List.append_assoc, cutAtFirst_append absent,
    cutAtFirst_here]
  simp

/-! ## The time in front of the level -/

/-- The offset of the level in a console line. -/
def levelColumn : Nat := 11

/-- The code points that can stand in front of the level. -/
def IsTimePoint (point : CodePoint) : Prop :=
  point.digit? ≠ none ∨ point = .scalar ':' ∨ point = .scalar ' '

theorem two_digits : ∀ number < 100,
    (Text.zeroPadded 2 (number : Nat)).length = 2 ∧
      ∀ point ∈ Text.zeroPadded 2 (number : Nat), point.digit? ≠ none := by
  decide

/-- The time in front of the level has its fixed length and holds digits,
colons and blanks only. -/
theorem clockText_separated (seconds : Int) :
    (clockText seconds ++ " : ").length = levelColumn ∧
      ∀ point ∈ clockText seconds ++ Text.ofString " : ",
        IsTimePoint point := by
  have inDay : (seconds.fmod 86400).toNat < 86400 := by
    have bound := Int.fmod_lt_of_pos seconds (by decide : (0 : Int) < 86400)
    omega
  obtain ⟨hours, hourDigits⟩ :=
    two_digits ((seconds.fmod 86400).toNat / 3600) (by omega)
  obtain ⟨minutes, minuteDigits⟩ :=
    two_digits ((seconds.fmod 86400).toNat / 60 % 60) (by omega)
  obtain ⟨rest, restDigits⟩ :=
    two_digits ((seconds.fmod 86400).toNat % 60) (by omega)
  have colon : ∀ point ∈ Text.ofString ":", IsTimePoint point := by
    unfold IsTimePoint
    decide
  have separator : ∀ point ∈ Text.ofString " : ", IsTimePoint point := by
    unfold IsTimePoint
    decide
  constructor
  · simp only [clockText, List.length_append, hours, minutes, rest]
    decide
  · simp only [clockText, List.forall_mem_append]
    exact ⟨⟨⟨⟨⟨fun point member => Or.inl (hourDigits point member), colon⟩,
      fun point member => Or.inl (minuteDigits point member)⟩, colon⟩,
      fun point member => Or.inl (restDigits point member)⟩, separator⟩

/-! ## Plain lines and colored lines -/

/-- The level is named, and its name begins with nothing that can stand in
front of it. -/
structure StandsOut (level : Text) : Prop where
  named : level ≠ []
  begins : ∀ point ∈ level.head?, ¬IsTimePoint point

theorem fill_console (entry : Entry) (message time : Text) :
    Layout.console.template.fill (.ofFields (entry.fields message time)) =
      .ok (time ++ " : " ++ entry.level.padded 8 ++ " : " ++ message) := by
  -- Time and message are brought to the width zero, which adds nothing.
  have filled :
      Layout.console.template.fill (.ofFields (entry.fields message time)) =
        .ok ((Text.filling 0 time ++ time) ++ (Text.ofString " : " ++
          (entry.level.padded 8 ++ (Text.ofString " : " ++
            ((Text.filling 0 message ++ message) ++ []))))) := rfl
  rw [filled, Text.filling_zero, Text.filling_zero]
  simp

theorem withFailure_append {back : Text} (nonempty : back ≠ []) (front : Text)
    (failure : Option Text) :
    withFailure (front ++ back) failure =
      front ++ withFailure back failure := by
  cases failure with
  | none => rfl
  | some failure =>
      have last : (front ++ back).getLast? = back.getLast? := by
        rw [List.getLast?_append_of_ne_nil front nonempty]
      rw [withFailure, withFailure, last]
      split <;> simp

/-- What stands behind the level of a console line. -/
def behindLevel (level message : Text) (failure : Option Text) : Text :=
  withFailure (level.filling 8 ++ " : " ++ message) failure

theorem plainLine_console {entry : Entry} {seconds : Int} {message : Text}
    {failure : Option Text} (timed : wholeSeconds entry.seconds = .ok seconds)
    (said : entry.message = .ok message)
    (failed : entry.failure = .ok failure) :
    plainLine .console .clock entry =
      .ok (clockText seconds ++ " : " ++ entry.level ++
        behindLevel entry.level message failure) := by
  have time : (if Layout.console.needsTime then entry.time .clock
      else .ok []) = .ok (clockText seconds) := by
    have needed : Layout.console.needsTime = true := rfl
    rw [if_pos needed, Entry.time, TimeStyle.text, timed]
    rfl
  have nonempty : entry.level.filling 8 ++ Text.ofString " : " ++ message ≠
      [] := by
    simp [Text.ofString, Text.ofChars]
  rw [plainLine_eq said time (fill_console entry message _) failed,
    behindLevel, ← withFailure_append nonempty]
  simp [Text.padded]

/-- A plain console line has a time and a failure without faults. -/
theorem exists_parts_of_plainLine {entry : Entry} {message line : Text}
    (said : entry.message = .ok message)
    (plain : plainLine .console .clock entry = .ok line) :
    ∃ seconds failure, wholeSeconds entry.seconds = .ok seconds ∧
      entry.failure = .ok failure := by
  have needed : Layout.console.needsTime = true := rfl
  simp only [plainLine, said, needed, if_true, Entry.time, TimeStyle.text,
    bind, Except.bind] at plain
  cases timed : wholeSeconds entry.seconds with
  | error fault => simp [timed] at plain
  | ok seconds =>
      cases failed : entry.failure with
      | error fault => simp [timed, fill_console, failed] at plain
      | ok failure => exact ⟨seconds, failure, rfl, rfl⟩

theorem colorLevel_console {level : Text} (standsOut : StandsOut level)
    (seconds : Int) (back : Text) :
    colorLevel level (clockText seconds ++ " : " ++ level ++ back) =
      clockText seconds ++ " : " ++ (colorCode level ++ level ++ resetCode) ++
        back := by
  obtain ⟨first, rest, rfl⟩ := List.exists_cons_of_ne_nil standsOut.named
  have foreign := standsOut.begins first rfl
  have absent : first ∉ clockText seconds ++ Text.ofString " : " :=
    fun member => foreign ((clockText_separated seconds).2 first member)
  exact replaceFirst_append absent rest _ back

/-- An entry that repeats its level and the code of its color in its message
and in its failure. -/
def repetitiveEntry : Entry :=
  { logger := projectLogger
    level := Level.error.name
    line := 0
    template := "ERROR %s"
    arguments := [.text "\x1b[31mERROR\x1b[0m"]
    seconds := .zero
    milliseconds := .zero
    elapsed := .zero
    failure := .ok (some "ValueError: ERROR") }

end Log

end PalletTypes
