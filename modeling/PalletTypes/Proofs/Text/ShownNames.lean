import Mathlib.Algebra.Group.Nat.Defs
import PalletTypes.Text.Encoding

/-!
# Names that are shown in ASCII

Single bytes only ever make up characters beyond ASCII: the bounds of the bytes
that may follow a first one exclude every second form of a character.  So what
the system shows of a name holds something beyond ASCII whenever the name does,
and only a name in ASCII is shown in ASCII.
-/

namespace PalletTypes

/-- A character of ASCII. -/
def CodePoint.IsAscii (point : CodePoint) : Prop := point.number < 0x80

namespace Utf8

/-- The pieces show something beyond ASCII. -/
def ShowsBeyond (pieces : List Piece) : Prop :=
  ∃ point ∈ pieces.flatMap Text.ofPiece, ¬point.IsAscii

theorem not_isAscii_ofRawByte (byte : UInt8) :
    ¬(CodePoint.ofRawByte byte).IsAscii := by
  simp only [CodePoint.IsAscii, CodePoint.ofRawByte, CodePoint.number]
  omega

theorem showsBeyond_broken {bytes : List UInt8} (begun : bytes ≠ [])
    (flaw : Flaw) (pieces : List Piece) :
    ShowsBeyond (.broken bytes flaw :: pieces) := by
  obtain ⟨byte, rest, rfl⟩ := List.exists_cons_of_ne_nil begun
  exact ⟨.ofRawByte byte, by simp [Text.ofPiece], not_isAscii_ofRawByte byte⟩

/-- The number of a character beyond ASCII. -/
def IsBeyond (number : Nat) : Prop :=
  0x80 ≤ number ∧ (number < 0xD800 ∨ 0xE000 ≤ number ∧ number < 0x110000)

theorem showsBeyond_character {number : Nat} (beyond : IsBeyond number) :
    ShowsBeyond [.character (Char.ofNat number)] := by
  refine ⟨.scalar (Char.ofNat number), by simp [Text.ofPiece], ?_⟩
  have valid : number.isValidChar := by
    unfold IsBeyond at beyond
    unfold Nat.isValidChar
    omega
  have number_eq : (Char.ofNat number).toNat = number := by
    rw [Char.ofNat, dif_pos valid]
    rfl
  rw [CodePoint.IsAscii, CodePoint.number, number_eq]
  exact Nat.not_lt.mpr beyond.1

namespace Pending

/-- The numbers of the characters that the pending one can still become. -/
def Reaches (pending : Pending) (number : Nat) : Prop :=
  let scale := 0x40 ^ (pending.owed - 1)
  (pending.bits * 0x40 + (pending.lowest - 0x80)) * scale ≤ number ∧
    number < (pending.bits * 0x40 + (pending.highest - 0x80) + 1) * scale

/-- The character that has been started lies beyond ASCII, whatever bytes
follow. -/
structure LiesBeyond (pending : Pending) : Prop where
  begun : pending.bytes ≠ []
  owing : pending.owed = 1 ∨ pending.owed = 2 ∨ pending.owed = 3
  high : 0x80 ≤ pending.lowest
  reaches : ∀ number, pending.Reaches number → IsBeyond number

/-- What a byte leads to: something that is beyond ASCII or will be. -/
structure GoesBeyond (taken : Option Pending × List Piece) : Prop where
  later : ∀ pending, taken.1 = some pending → pending.LiesBeyond
  now : taken.1 = none → ShowsBeyond taken.2

theorem goesBeyond_of_now {pieces : List Piece} (shows : ShowsBeyond pieces) :
    GoesBeyond (none, pieces) where
  later := fun _ done => nomatch done
  now := fun _ => shows

theorem goesBeyond_of_later {pending : Pending} {pieces : List Piece}
    (lies : pending.LiesBeyond) : GoesBeyond (some pending, pieces) := by
  refine ⟨?_, fun done => nomatch done⟩
  rintro _ ⟨⟩
  exact lies

theorem goesBeyond_start {byte : UInt8} (high : 0x80 ≤ byte.toNat) :
    GoesBeyond (start byte) := by
  have lone : ShowsBeyond [.broken [byte] .start] :=
    showsBeyond_broken (List.cons_ne_nil _ _) _ _
  unfold start
  simp only [Nat.not_lt.mpr high, if_false]
  split
  case isTrue => exact goesBeyond_of_now lone
  case isFalse =>
    split
    case isTrue =>
      refine goesBeyond_of_later
        ⟨List.cons_ne_nil _ _, by simp, Nat.le_refl _, ?_⟩
      intro number reached
      simp only [Reaches, IsBeyond] at reached ⊢
      omega
    case isFalse =>
      split
      case isTrue =>
        refine goesBeyond_of_later ⟨List.cons_ne_nil _ _, by simp, ?_, ?_⟩
        · dsimp only
          split <;> omega
        · intro number reached
          simp only [Reaches, IsBeyond] at reached ⊢
          split at reached <;> split at reached <;> omega
      case isFalse =>
        split
        case isTrue =>
          refine goesBeyond_of_later ⟨List.cons_ne_nil _ _, by simp, ?_, ?_⟩
          · dsimp only
            split <;> omega
          · intro number reached
            simp only [Reaches, IsBeyond] at reached ⊢
            split at reached <;> split at reached <;> omega
        case isFalse => exact goesBeyond_of_now lone

/-- A byte that goes on with a character narrows what it can become. -/
theorem goesBeyond_next {pending : Pending} (lies : pending.LiesBeyond)
    {byte : UInt8} (high : 0x80 ≤ byte.toNat) :
    GoesBeyond (pending.next byte) := by
  have reaches := lies.reaches
  have owing := lies.owing
  have lowest := lies.high
  unfold next
  dsimp only
  split
  case isFalse =>
    have started := goesBeyond_start high
    generalize start byte = taken at started
    obtain ⟨later, pieces⟩ := taken
    exact ⟨started.later, fun _ => showsBeyond_broken lies.begun _ _⟩
  case isTrue fits =>
    split
    case isTrue single =>
      have last : pending.owed = 1 := by omega
      have reached : pending.Reaches
          (pending.bits * 0x40 + (byte.toNat - 0x80)) := by
        simp only [Reaches, last]
        omega
      exact goesBeyond_of_now (showsBeyond_character (reaches _ reached))
    case isFalse several =>
      refine goesBeyond_of_later ⟨by simp, by simp only; omega, Nat.le_refl _,
        ?_⟩
      intro number reached
      apply reaches number
      rcases owing with one | two | three
      · omega
      · simp only [Reaches, two] at reached ⊢
        omega
      · simp only [Reaches, three] at reached ⊢
        omega

theorem goesBeyond_take {pending : Option Pending}
    (lies : ∀ started, pending = some started → started.LiesBeyond)
    {byte : UInt8} (high : 0x80 ≤ byte.toNat) :
    GoesBeyond (take byte pending) := by
  cases pending with
  | none => exact goesBeyond_start high
  | some started => exact goesBeyond_next (lies started rfl) high

end Pending

end Utf8

namespace Text

open Utf8 (Pending)

theorem liesBeyond_of_none (started : Pending)
    (absent : (none : Option Pending) = some started) : started.LiesBeyond :=
  nomatch absent

theorem le_toNat_of_rawByte? {point : CodePoint} {byte : UInt8}
    (raw : point.rawByte? = some byte) : 0x80 ≤ byte.toNat := by
  cases point with
  | scalar char => simp [CodePoint.rawByte?] at raw
  | surrogate offset =>
      simp only [CodePoint.rawByte?] at raw
      split at raw
      case isTrue inside =>
        have number : (offset.val - 0x400).toUInt8.toNat =
            (offset.val - 0x400) % 0x100 := UInt8.toNat_ofNat'
        rw [← Option.some.inj raw, number]
        omega
      case isFalse => cases raw

/-- What has been started or still is to come beyond ASCII is shown beyond
ASCII. -/
theorem exists_beyond_shownNameFrom {pending : Option Pending} {text : Text}
    (lies : ∀ started, pending = some started → started.LiesBeyond)
    (beyond : (∃ started, pending = some started) ∨
      ∃ point ∈ text, ¬point.IsAscii) :
    ∃ point ∈ shownNameFrom pending text, ¬point.IsAscii := by
  induction text generalizing pending with
  | nil =>
      rcases beyond with ⟨started, rfl⟩ | ⟨point, inNil, _⟩
      · exact Utf8.showsBeyond_broken (lies started rfl).begun _ _
      · exact nomatch inNil
  | cons point rest ih =>
      rw [shownNameFrom]
      cases raw : point.rawByte? with
      | some byte =>
          have goes :=
            Pending.goesBeyond_take lies (le_toNat_of_rawByte? raw)
          dsimp only
          generalize Pending.take byte pending = taken at goes
          obtain ⟨later, pieces⟩ := taken
          cases later with
          | none =>
              obtain ⟨shown, member, high⟩ := goes.now rfl
              exact ⟨shown, List.mem_append_left _ member, high⟩
          | some started =>
              obtain ⟨shown, member, high⟩ :=
                ih goes.later (Or.inl ⟨started, rfl⟩)
              exact ⟨shown, List.mem_append_right _ member, high⟩
      | none =>
          dsimp only
          rcases beyond with ⟨started, rfl⟩ | ⟨other, member, high⟩
          · obtain ⟨shown, member, high⟩ := Utf8.showsBeyond_broken
              (lies started rfl).begun .ending []
            exact ⟨shown, List.mem_append_left _ member, high⟩
          · rcases List.mem_cons.mp member with rfl | later
            · exact ⟨other, by simp, high⟩
            · obtain ⟨shown, member, high⟩ :=
                ih liesBeyond_of_none (Or.inr ⟨other, later, high⟩)
              exact ⟨shown, by simp [member], high⟩

/-- A name that is shown in ASCII is what is shown. -/
theorem eq_of_shownName_eq {name shown : Text}
    (ascii : ∀ point ∈ shown, point.IsAscii) (same : name.shownName = shown) :
    name = shown := by
  have plain : ∀ point ∈ name, point.IsAscii := by
    intro point member
    apply Classical.byContradiction
    intro high
    obtain ⟨other, inShown, highToo⟩ := exists_beyond_shownNameFrom
      liesBeyond_of_none (Or.inr ⟨point, member, high⟩)
    exact highToo (ascii other (same ▸ inShown))
  have scalar : name.IsScalar := by
    intro point member
    cases point with
    | scalar char => exact ⟨char, rfl⟩
    | surrogate offset =>
        have low := plain _ member
        simp only [CodePoint.IsAscii, CodePoint.number] at low
        omega
  rw [← same, shownName_of_isScalar scalar]

end Text

end PalletTypes
