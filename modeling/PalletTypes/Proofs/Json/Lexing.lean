import PalletTypes.Proofs.Json.Quotations

/-!
# Characters as lexemes with blanks between them

Whatever the scanner takes is the spelling of its lexemes with blanks between
them, and what stands in a quoted text is closed.  The lexeme that is open at
some place of the run is the beginning of one that the rest of the characters
finishes.
-/

namespace PalletTypes.Json

/-- The raw characters of a quoted text do not end it too early. -/
def Lexeme.IsSound : Lexeme → Prop
  | .quoted raw => Closed raw
  | _ => True

/-- The characters are the lexemes in their order, with blanks around them. -/
inductive Spread : List Char → List Lexeme → Prop where
  | nil {blanks : List Char} (blank : AreBlanks blanks) : Spread blanks []
  | cons {before rest : List Char} {lexeme : Lexeme} {lexemes : List Lexeme}
      (blank : AreBlanks before) (sound : lexeme.IsSound)
      (others : Spread rest lexemes) :
      Spread (before ++ lexeme.chars ++ rest) (lexeme :: lexemes)

theorem areBlanks_cons {char : Char} {blanks : List Char}
    (first : isBlank char = true) (blank : AreBlanks blanks) :
    AreBlanks (char :: blanks) :=
  List.forall_mem_cons.mpr ⟨first, blank⟩

theorem areBlanks_nil : AreBlanks [] := fun _ member => nomatch member

/-- More blanks may stand in front. -/
theorem Spread.blank_cons {char : Char} {chars : List Char}
    {lexemes : List Lexeme} (first : isBlank char = true)
    (spread : Spread chars lexemes) : Spread (char :: chars) lexemes := by
  cases spread with
  | nil blank => exact .nil (areBlanks_cons first blank)
  | cons blank sound others =>
      exact Spread.cons (areBlanks_cons first blank) sound others

section

variable {rest : List Char} {lexemes : List Lexeme}

/-- A lexeme without blanks in front. -/
theorem Spread.lexeme_append {lexeme : Lexeme} (sound : lexeme.IsSound)
    (spread : Spread rest lexemes) :
    Spread (lexeme.chars ++ rest) (lexeme :: lexemes) :=
  Spread.cons areBlanks_nil sound spread

theorem Spread.mark_cons (mark : Mark) (spread : Spread rest lexemes) :
    Spread (mark.char :: rest) (.mark mark :: lexemes) := by
  have sound : (Lexeme.mark mark).IsSound := trivial
  exact spread.lexeme_append sound

theorem Spread.quoted_append {raw : List Char} (closed : Closed raw)
    (spread : Spread rest lexemes) :
    Spread ('"' :: (raw ++ '"' :: rest)) (.quoted raw :: lexemes) := by
  have sound : (Lexeme.quoted raw).IsSound := closed
  simpa [Lexeme.chars] using spread.lexeme_append sound

theorem Spread.number_append (digits : List Char)
    (spread : Spread rest lexemes) :
    Spread (digits ++ rest) (.number digits :: lexemes) := by
  have sound : (Lexeme.number digits).IsSound := trivial
  exact spread.lexeme_append sound

theorem Spread.word_append (letters : List Char)
    (spread : Spread rest lexemes) :
    Spread (letters ++ rest) (.word letters :: lexemes) := by
  have sound : (Lexeme.word letters).IsSound := trivial
  exact spread.lexeme_append sound

end

/-- The characters finish the lexeme that is open and go on with others. -/
inductive Finishes : Scan → List Char → List Lexeme → Prop where
  | between {chars : List Char} {lexemes : List Lexeme}
      (spread : Spread chars lexemes) : Finishes .between chars lexemes
  | quoted {done raw rest : List Char} {lexemes : List Lexeme}
      (closed : Closed raw) (spread : Spread rest lexemes) :
      Finishes (.quoted done) (raw ++ '"' :: rest)
        (.quoted (done.reverse ++ raw) :: lexemes)
  | escaped {done raw rest : List Char} {mark : Char} {lexemes : List Lexeme}
      (visible : isControl mark = false) (closed : Closed raw)
      (spread : Spread rest lexemes) :
      Finishes (.escaped done) (mark :: raw ++ '"' :: rest)
        (.quoted (done.reverse ++ mark :: raw) :: lexemes)
  | number {done rest : List Char} {lexemes : List Lexeme}
      (digits : List Char) (spread : Spread rest lexemes) :
      Finishes (.number done) (digits ++ rest)
        (.number (done.reverse ++ digits) :: lexemes)
  | word {done rest : List Char} {lexemes : List Lexeme}
      (letters : List Char) (spread : Spread rest lexemes) :
      Finishes (.word done) (letters ++ rest)
        (.word (done.reverse ++ letters) :: lexemes)

section

variable {scanner next : Scanner} {finished lexemes : List Lexeme}
  {char : Char} {rest : List Char}

theorem char_of_ofChar? {mark : Mark} (known : Mark.ofChar? char = some mark) :
    mark.char = char := by
  unfold Mark.ofChar? at known
  split at known <;> cases known <;> rfl

/-- If the rest finishes what an entered character opens, the characters are
spread from this one on. -/
theorem spread_of_enter (entered : Scanner.enter finished char = some next)
    (finishes : Finishes next.scan rest lexemes) :
    ∃ later, next.finished.reverse ++ lexemes = finished.reverse ++ later ∧
      Spread (char :: rest) later := by
  unfold Scanner.enter at entered
  repeat' split at entered
  case isTrue blank =>
    cases entered
    obtain ⟨spread⟩ := finishes
    exact ⟨lexemes, rfl, spread.blank_cons blank⟩
  case isFalse.isTrue isQuote =>
    cases entered
    subst isQuote
    cases finishes with
    | quoted closed spread => exact ⟨_, rfl, spread.quoted_append closed⟩
  case isFalse.isFalse.isTrue =>
    cases entered
    cases finishes with
    | number _ spread => exact ⟨_, rfl, spread.number_append (char :: _)⟩
  case isFalse.isFalse.isFalse.isTrue =>
    cases entered
    cases finishes with
    | word _ spread => exact ⟨_, rfl, spread.word_append (char :: _)⟩
  case isFalse.isFalse.isFalse.isFalse =>
    obtain ⟨mark, known, rfl⟩ := Option.map_eq_some_iff.mp entered
    obtain ⟨spread⟩ := finishes
    refine ⟨.mark mark :: lexemes, by simp, ?_⟩
    rw [← char_of_ofChar? known]
    exact spread.mark_cons mark

/-- What the rest finishes behind a character, the character and the rest
finish in front of it. -/
theorem finishes_of_step (stepped : scanner.step char = some next)
    (finishes : Finishes next.scan rest lexemes) :
    ∃ later, next.finished.reverse ++ lexemes =
        scanner.finished.reverse ++ later ∧
      Finishes scanner.scan (char :: rest) later := by
  obtain ⟨scan, finished⟩ := scanner
  cases scan with
  | between =>
      obtain ⟨later, same, spread⟩ := spread_of_enter stepped finishes
      exact ⟨later, same, .between spread⟩
  | quoted raw =>
      simp only [Scanner.step] at stepped
      repeat' split at stepped
      case isTrue isQuote =>
        cases stepped
        subst isQuote
        obtain ⟨spread⟩ := finishes
        refine ⟨.quoted (raw.reverse ++ []) :: lexemes, by simp, ?_⟩
        exact .quoted .nil spread
      case isFalse.isTrue isEscape =>
        cases stepped
        subst isEscape
        cases finishes with
        | escaped visible closed spread =>
            refine ⟨_, rfl, ?_⟩
            rw [List.reverse_cons, List.append_assoc]
            exact .quoted (.escaped visible closed) spread
      case isFalse.isFalse.isTrue => exact nomatch stepped
      case isFalse.isFalse.isFalse noQuote noEscape visible =>
        cases stepped
        rw [Bool.not_eq_true] at visible
        cases finishes with
        | quoted closed spread =>
            refine ⟨_, rfl, ?_⟩
            rw [List.reverse_cons, List.append_assoc]
            exact .quoted (.plain visible noQuote noEscape closed) spread
  | escaped raw =>
      simp only [Scanner.step] at stepped
      split at stepped
      case isTrue => exact nomatch stepped
      case isFalse visible =>
        cases stepped
        rw [Bool.not_eq_true] at visible
        cases finishes with
        | quoted closed spread =>
            refine ⟨_, rfl, ?_⟩
            rw [List.reverse_cons, List.append_assoc]
            exact .escaped visible closed spread
  | number chars =>
      simp only [Scanner.step] at stepped
      split at stepped
      case isTrue =>
        cases stepped
        cases finishes with
        | number _ spread =>
            refine ⟨_, rfl, ?_⟩
            rw [List.reverse_cons, List.append_assoc]
            exact .number (char :: _) spread
      case isFalse =>
        obtain ⟨later, same, spread⟩ := spread_of_enter stepped finishes
        refine ⟨.number (chars.reverse ++ []) :: later, by simp [same], ?_⟩
        exact .number [] spread
  | word chars =>
      simp only [Scanner.step] at stepped
      split at stepped
      case isTrue =>
        cases stepped
        cases finishes with
        | word _ spread =>
            refine ⟨_, rfl, ?_⟩
            rw [List.reverse_cons, List.append_assoc]
            exact .word (char :: _) spread
      case isFalse =>
        obtain ⟨later, same, spread⟩ := spread_of_enter stepped finishes
        refine ⟨.word (chars.reverse ++ []) :: later, by simp [same], ?_⟩
        exact .word [] spread

end

/-- At the end of the characters nothing is left to finish. -/
theorem finishes_of_finish {scanner : Scanner} {lexemes : List Lexeme}
    (finished : scanner.finish = some lexemes) :
    ∃ later, lexemes = scanner.finished.reverse ++ later ∧
      Finishes scanner.scan [] later := by
  obtain ⟨scan, done⟩ := scanner
  cases scan <;> cases finished
  case between => exact ⟨[], by simp, .between (.nil areBlanks_nil)⟩
  case number chars =>
    refine ⟨[.number (chars.reverse ++ [])], by simp, ?_⟩
    exact .number [] (.nil areBlanks_nil)
  case word chars =>
    refine ⟨[.word (chars.reverse ++ [])], by simp, ?_⟩
    exact .word [] (.nil areBlanks_nil)

theorem finishes_of_run {scanner last : Scanner} {chars : List Char}
    {lexemes : List Lexeme} (run : chars.foldlM Scanner.step scanner = some last)
    (finished : last.finish = some lexemes) :
    ∃ later, lexemes = scanner.finished.reverse ++ later ∧
      Finishes scanner.scan chars later := by
  induction chars generalizing scanner with
  | nil =>
      cases run
      exact finishes_of_finish finished
  | cons char chars ih =>
      rw [List.foldlM_cons] at run
      obtain ⟨next, stepped, run⟩ := Option.bind_eq_some_iff.mp run
      obtain ⟨later, rfl, finishes⟩ := ih run
      exact finishes_of_step stepped finishes

/-- Characters that are cut into lexemes are spread. -/
theorem spread_of_lexemes? {chars : List Char} {lexemes : List Lexeme}
    (cut : lexemes? chars = some lexemes) : Spread chars lexemes := by
  obtain ⟨last, run, finished⟩ := Option.bind_eq_some_iff.mp cut
  obtain ⟨later, same, finishes⟩ := finishes_of_run run finished
  rw [same]
  obtain ⟨spread⟩ := finishes
  exact spread

end PalletTypes.Json
