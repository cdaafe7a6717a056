import PalletTypes.Proofs.Json.Escapes
import PalletTypes.Proofs.Json.Plain

/-!
# Scanning the layout of a value

The scanner cuts the layout of a value into the lexemes of the value.  A
number or a word at the end of a piece stays open until the next piece closes
it, so a piece of a layout is followed from any scanner that is settled, and
only what comes after a blank or a mark is entered between two lexemes.
-/

namespace PalletTypes.Json

def floatLexeme (number : Binary64) : Lexeme :=
  if number.IsFinite then .number (Binary64.text numberStyle number)
  else .word nullWord

def separatorLexemes (isFirst : Bool) : List Lexeme :=
  if isFirst then [] else [.mark .comma]

mutual

/-- The lexemes of a value. -/
def lexemes : Value → List Lexeme
  | .null => [.word nullWord]
  | .bool true => [.word ['t', 'r', 'u', 'e']]
  | .bool false => [.word ['f', 'a', 'l', 's', 'e']]
  | .int number => [.number (integerLayout number)]
  | .float number => [floatLexeme number]
  | .text content => [.quoted (escaped content)]
  | .list items =>
      .mark .openList :: (itemsLexemes true items ++ [.mark .closeList])
  | .mapping entries =>
      .mark .openMapping ::
        (entriesLexemes true entries ++ [.mark .closeMapping])

def itemsLexemes (isFirst : Bool) : List Value → List Lexeme
  | [] => []
  | item :: items =>
      separatorLexemes isFirst ++ lexemes item ++ itemsLexemes false items

def entriesLexemes (isFirst : Bool) : List (Text × Value) → List Lexeme
  | [] => []
  | (key, value) :: entries =>
      separatorLexemes isFirst ++
        .quoted (escaped key) :: .mark .colon :: lexemes value ++
        entriesLexemes false entries

end

/-! ## Settled scanners -/

/-- The finished lexemes once an open number or word is closed. -/
def Scanner.settled? (scanner : Scanner) : Option (List Lexeme) :=
  match scanner.scan with
  | .between => some scanner.finished
  | .number chars => some (.number chars.reverse :: scanner.finished)
  | .word chars => some (.word chars.reverse :: scanner.finished)
  | .quoted _ => none
  | .escaped _ => none

/-- The character belongs neither to a number nor to a word. -/
def IsBoundary (char : Char) : Prop :=
  continuesNumber char = false ∧ isWordChar char = false

instance (char : Char) : Decidable (IsBoundary char) :=
  inferInstanceAs (Decidable (_ ∧ _))

theorem Scanner.finish_eq (scanner : Scanner) :
    scanner.finish = scanner.settled?.map List.reverse := by
  obtain ⟨scan, finished⟩ := scanner
  cases scan <;> rfl

/-- A boundary closes what is open and is entered. -/
theorem Scanner.step_of_settled {scanner : Scanner} {finished : List Lexeme}
    {char : Char} (settled : scanner.settled? = some finished)
    (boundary : IsBoundary char) :
    scanner.step char = Scanner.enter finished char := by
  obtain ⟨scan, done⟩ := scanner
  cases scan <;> simp only [settled?, Option.some.injEq, reduceCtorEq] at settled
  case between => rw [← settled]; rfl
  case number chars => simp [Scanner.step, boundary.1, settled]
  case word chars => simp [Scanner.step, boundary.2, settled]

/-- The piece is cut into the lexemes between two others. -/
def Leads (chars : List Char) (lexemes : List Lexeme) : Prop :=
  ∀ finished, ∃ next : Scanner,
    chars.foldlM Scanner.step ⟨.between, finished⟩ = some next ∧
      next.settled? = some (lexemes.reverse ++ finished)

/-- The piece is cut into the lexemes also where a number or a word is open. -/
def Follows (chars : List Char) (lexemes : List Lexeme) : Prop :=
  ∀ (scanner : Scanner) (finished : List Lexeme),
    scanner.settled? = some finished →
      ∃ next : Scanner, chars.foldlM Scanner.step scanner = some next ∧
        next.settled? = some (lexemes.reverse ++ finished)

/-- The piece is followed and leaves neither a number nor a word open. -/
def Separates (chars : List Char) (lexemes : List Lexeme) : Prop :=
  ∀ (scanner : Scanner) (finished : List Lexeme),
    scanner.settled? = some finished →
      chars.foldlM Scanner.step scanner =
        some ⟨.between, lexemes.reverse ++ finished⟩

variable {first second : List Char} {before after : List Lexeme}

theorem Separates.follows (separates : Separates first before) :
    Follows first before := by
  intro scanner finished settled
  exact ⟨_, separates scanner finished settled, rfl⟩

theorem Follows.leads (follows : Follows first before) :
    Leads first before := by
  intro finished
  apply follows
  rfl

theorem Follows.nil : Follows [] [] := by
  intro scanner finished settled
  exact ⟨scanner, rfl, settled⟩

theorem Follows.append (starts : Follows first before)
    (goesOn : Follows second after) :
    Follows (first ++ second) (before ++ after) := by
  intro scanner finished settled
  obtain ⟨middle, scanned, middleSettled⟩ := starts scanner finished settled
  obtain ⟨next, scannedOn, nextSettled⟩ := goesOn middle _ middleSettled
  refine ⟨next, by simp [scanned, scannedOn], ?_⟩
  rw [nextSettled, List.reverse_append, List.append_assoc]

theorem Leads.append (starts : Leads first before)
    (goesOn : Follows second after) :
    Leads (first ++ second) (before ++ after) := by
  intro finished
  obtain ⟨middle, scanned, middleSettled⟩ := starts finished
  obtain ⟨next, scannedOn, nextSettled⟩ := goesOn middle _ middleSettled
  refine ⟨next, by simp [scanned, scannedOn], ?_⟩
  rw [nextSettled, List.reverse_append, List.append_assoc]

theorem Separates.append (starts : Separates first before)
    (goesOn : Leads second after) :
    Follows (first ++ second) (before ++ after) := by
  intro scanner finished settled
  have scanned := starts scanner finished settled
  obtain ⟨next, scannedOn, nextSettled⟩ := goesOn (before.reverse ++ finished)
  refine ⟨next, by simp [scanned, scannedOn], ?_⟩
  rw [nextSettled, List.reverse_append, List.append_assoc]

theorem Separates.separates_append (starts : Separates first before)
    (goesOn : Separates second after) :
    Separates (first ++ second) (before ++ after) := by
  intro scanner finished settled
  have scanned := starts scanner finished settled
  have scannedOn := goesOn ⟨.between, before.reverse ++ finished⟩ _ rfl
  rw [List.foldlM_append, scanned, Option.bind_eq_bind, Option.bind_some,
    scannedOn, List.reverse_append, List.append_assoc]

/-! ## The pieces of a layout -/

theorem enter_blank (finished : List Lexeme) {char : Char}
    (blank : isBlank char = true) :
    Scanner.enter finished char = some ⟨.between, finished⟩ := by
  rw [Scanner.enter, if_pos blank]

theorem isBoundary_mark (mark : Mark) : IsBoundary mark.char := by
  cases mark <;> decide

theorem enter_mark (finished : List Lexeme) (mark : Mark) :
    Scanner.enter finished mark.char =
      some ⟨.between, .mark mark :: finished⟩ := by
  cases mark <;> rfl

theorem separates_mark (mark : Mark) :
    Separates [mark.char] [.mark mark] := by
  intro scanner finished settled
  simp [Scanner.step_of_settled settled (isBoundary_mark mark), enter_mark]

theorem scan_spaces (count : Nat) (finished : List Lexeme) :
    (List.replicate count ' ').foldlM Scanner.step ⟨.between, finished⟩ =
      some ⟨.between, finished⟩ := by
  induction count with
  | zero => rfl
  | succ count ih =>
      have space : Scanner.step ⟨.between, finished⟩ ' ' =
          some ⟨.between, finished⟩ := enter_blank finished (by decide)
      rw [List.replicate_succ, List.foldlM_cons, space]
      exact ih

theorem separates_line (depth : Nat) : Separates (lineLayout depth) [] := by
  intro scanner finished settled
  have broken : scanner.step '\n' = some ⟨.between, finished⟩ := by
    rw [Scanner.step_of_settled settled (by decide)]
    exact enter_blank finished (by decide)
  rw [lineLayout, List.foldlM_cons, broken]
  exact scan_spaces (2 * depth) finished

theorem separates_start (depth : Nat) (isFirst : Bool) :
    Separates (separatorLayout isFirst ++ lineLayout depth)
      (separatorLexemes isFirst) := by
  cases isFirst with
  | true => exact separates_line depth
  | false =>
      exact (separates_mark .comma).separates_append (separates_line depth)

theorem separates_colon : Separates [':', ' '] [.mark .colon] := by
  intro scanner finished settled
  have marked := separates_mark .colon scanner finished settled
  have space := scan_spaces 1 (.mark .colon :: finished)
  have split : [':', ' '] = [Mark.colon.char] ++ List.replicate 1 ' ' := rfl
  rw [split, List.foldlM_append, marked]
  exact space

theorem separates_closing (depth : Nat) (isEmpty : Bool) (mark : Mark) :
    Separates (closingLayout depth isEmpty mark) [.mark mark] := by
  cases isEmpty with
  | true => exact separates_mark mark
  | false => exact (separates_line depth).separates_append (separates_mark mark)

/-- A number is taken whole and stays open. -/
theorem leads_number {chars : List Char} (isNumber : IsNumber chars) :
    Leads chars [.number chars] := by
  obtain ⟨first, rest, rfl, starts, continues⟩ := isNumber
  have taken : ∀ (done : List Char) (finished : List Lexeme),
      rest.foldlM Scanner.step ⟨.number done, finished⟩ =
        some ⟨.number (rest.reverse ++ done), finished⟩ := by
    induction rest with
    | nil => intros; rfl
    | cons char others ih =>
        intro done finished
        have step : Scanner.step ⟨.number done, finished⟩ char =
            some ⟨.number (char :: done), finished⟩ := by
          simp [Scanner.step, continues char List.mem_cons_self]
        rw [List.foldlM_cons, step, Option.bind_eq_bind, Option.bind_some,
          ih fun other member => continues other
            (List.mem_cons_of_mem _ member)]
        simp
  have plain : isBlank first = false ∧ first ≠ '"' := by
    constructor
    · cases blank : isBlank first with
      | false => rfl
      | true =>
          simp only [isBlank, Bool.or_eq_true, beq_iff_eq] at blank
          rcases blank with ((rfl | rfl) | rfl) | rfl <;>
            exact absurd starts (by decide)
    · rintro rfl
      exact absurd starts (by decide)
  intro finished
  have entered : Scanner.step ⟨.between, finished⟩ first =
      some ⟨.number [first], finished⟩ := by
    simp [Scanner.step, Scanner.enter, plain, starts]
  refine ⟨⟨.number (rest.reverse ++ [first]), finished⟩, ?_, ?_⟩
  · rw [List.foldlM_cons, entered]
    exact taken [first] finished
  · simp [Scanner.settled?]

theorem leads_quotedLayout (text : Text) :
    Leads (quotedLayout text) [.quoted (escaped text)] := by
  intro finished
  exact ⟨_, scan_quotedLayout text finished, rfl⟩

theorem leads_nullWord : Leads nullWord [.word nullWord] := by
  intro finished
  exact ⟨⟨.word nullWord.reverse, finished⟩, rfl, rfl⟩

theorem leads_floatLayout (number : Binary64) :
    Leads (floatLayout number) [floatLexeme number] := by
  unfold floatLayout floatLexeme
  split
  case isTrue finite => exact leads_number (isNumber_text finite)
  case isFalse => exact leads_nullWord

mutual

/-- The scanner cuts the layout of a value into its lexemes. -/
theorem leads_layout (depth : Nat) (value : Value) :
    Leads (layout depth value) (lexemes value) := by
  cases value with
  | null => exact leads_nullWord
  | bool truth =>
      cases truth with
      | true =>
          intro finished
          exact ⟨⟨.word ['e', 'u', 'r', 't'], finished⟩, rfl, rfl⟩
      | false =>
          intro finished
          exact ⟨⟨.word ['e', 's', 'l', 'a', 'f'], finished⟩, rfl, rfl⟩
  | int number => exact leads_number (isNumber_integerLayout number)
  | float number => exact leads_floatLayout number
  | text content => exact leads_quotedLayout content
  | list items =>
      apply Leads.append (separates_mark .openList).follows.leads
      apply Follows.append (follows_itemsLayout (depth + 1) true items)
      exact (separates_closing depth items.isEmpty .closeList).follows
  | mapping entries =>
      apply Leads.append (separates_mark .openMapping).follows.leads
      apply Follows.append (follows_entriesLayout (depth + 1) true entries)
      exact (separates_closing depth entries.isEmpty .closeMapping).follows

theorem follows_itemsLayout (depth : Nat) (isFirst : Bool)
    (items : List Value) :
    Follows (itemsLayout depth isFirst items) (itemsLexemes isFirst items) := by
  cases items with
  | nil => exact Follows.nil
  | cons item items =>
      apply Follows.append _ (follows_itemsLayout depth false items)
      exact (separates_start depth isFirst).append (leads_layout depth item)

theorem follows_entriesLayout (depth : Nat) (isFirst : Bool)
    (entries : List (Text × Value)) :
    Follows (entriesLayout depth isFirst entries)
      (entriesLexemes isFirst entries) := by
  cases entries with
  | nil => exact Follows.nil
  | cons entry entries =>
      obtain ⟨key, value⟩ := entry
      have named := (separates_start depth isFirst).append
        (leads_quotedLayout key)
      have defined := separates_colon.append (leads_layout depth value)
      have whole := (named.append defined).append
        (follows_entriesLayout depth false entries)
      simpa [entriesLayout, entriesLexemes] using whole

end

theorem lexemes?_layout (depth : Nat) (value : Value) :
    lexemes? (layout depth value) = some (lexemes value) := by
  obtain ⟨scanner, scanned, settled⟩ := leads_layout depth value []
  rw [lexemes?, Scanner.start, scanned, Option.bind_some, Scanner.finish_eq,
    settled]
  simp

end PalletTypes.Json
