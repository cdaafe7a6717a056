import PalletTypes.Proofs.Path.Templates

/-!
# Paths and their texts

The names of the path that a text spells are the parts between its slashes,
without those that are empty or `.`.  A path is spelled by its own text, so it
can be told and read again without a change.
-/

namespace PalletTypes.Path

theorem segments_eq_splitOn (text : Text) :
    segments text = text.splitOn slash := by
  induction text with
  | nil => rfl
  | cons point rest ih =>
      rw [segments, List.splitOn_cons_eq_if_modifyHead, ih]
      by_cases isSlash : point = slash
      · simp [isSlash]
      · rw [if_neg isSlash, if_neg (by simpa using isSlash)]
        cases parts : rest.splitOn slash with
        | nil => exact absurd parts (List.splitOn_ne_nil slash rest)
        | cons first others => rfl

theorem slash_not_mem_of_mem_segments {text segment : Text}
    (member : segment ∈ segments text) : slash ∉ segment := by
  induction text generalizing segment with
  | nil =>
      rw [segments, List.mem_singleton] at member
      simp [member]
  | cons point rest ih =>
      rw [segments] at member
      split at member
      case isTrue =>
        rcases List.mem_cons.mp member with rfl | inRest
        · exact List.not_mem_nil
        · exact ih inRest
      case isFalse notSlash =>
        split at member
        case h_1 nothing => exact absurd nothing (segments_ne_nil rest)
        case h_2 first others parts =>
          rcases List.mem_cons.mp member with rfl | inOthers
          · have inFirst := ih (parts ▸ List.mem_cons_self)
            simp [Ne.symm notSlash, inFirst]
          · exact ih (parts ▸ List.mem_cons_of_mem first inOthers)

/-- A path has the parts of its text for names, without the empty ones and
`.`. -/
theorem names_ofText (text : Text) :
    (ofText text).names =
      (text.splitOn slash).filter fun segment =>
        segment ≠ [] ∧ segment ≠ [.scalar '.'] := by
  rw [ofText, ofNames, ← segments_eq_splitOn]
  apply List.filter_congr
  intro segment member
  have noSlash := slash_not_mem_of_mem_segments member
  simp [IsName, noSlash]

theorem ext {first second : Path} (root : first.root = second.root)
    (names : first.names = second.names) : first = second := by
  cases first
  cases second
  simp_all

/-- Names with slashes between them spell themselves. -/
theorem names_ofText_intercalate {names : List Text}
    (valid : ∀ name ∈ names, IsName name) :
    (ofText (List.intercalate [slash] names)).names = names := by
  by_cases empty : names = []
  · rw [empty]
    rfl
  · have apart : segments (List.intercalate [slash] names) = names := by
      rw [segments_eq_splitOn]
      exact List.splitOn_intercalate slash
        (fun name member => (valid name member).2.2) empty
    rw [ofText, ofNames, apart]
    exact List.filter_eq_self.mpr fun name member =>
      decide_eq_true (valid name member)

/-- Names do not begin with a slash. -/
theorem takeWhile_intercalate {names : List Text}
    (valid : ∀ name ∈ names, IsName name) :
    (List.intercalate [slash] names).takeWhile (· = slash) = [] := by
  cases names with
  | nil => rfl
  | cons name names =>
      obtain ⟨nonempty, _, noSlash⟩ := valid name List.mem_cons_self
      cases name with
      | nil => exact absurd rfl nonempty
      | cons point rest =>
          have notSlash : point ≠ slash := by
            rintro rfl
            exact noSlash List.mem_cons_self
          cases names with
          | nil => simp [List.intercalate_singleton, notSlash]
          | cons next names =>
              simp [List.intercalate_cons_cons, notSlash]

theorem root_ofText_append {root : PathRoot} {body : Text}
    (plain : body.takeWhile (· = slash) = []) :
    (ofText (root.text ++ body)).root = root := by
  rw [ofText, ofNames, rootOf]
  cases root <;> simp [PathRoot.text, plain, rootOfSlashes]

theorem names_ofText_append (root : PathRoot) (body : Text) :
    (ofText (root.text ++ body)).names = (ofText body).names := by
  have dropped : ∀ rest : Text,
      (ofText (slash :: rest)).names = (ofText rest).names := fun rest =>
    names_ofText_append_slash [] rest
  cases root with
  | relative => rfl
  | absolute => exact dropped body
  | doubled => exact (dropped (slash :: body)).trans (dropped body)

/-- A path is spelled by its own text. -/
theorem ofText_text (path : Path) : ofText path.text = path := by
  unfold text
  split
  case isTrue bare =>
    exact ext (by rw [bare.1]; rfl) (by rw [bare.2]; rfl)
  case isFalse =>
    have plain := takeWhile_intercalate path.valid
    apply ext (root_ofText_append plain)
    rw [names_ofText_append, names_ofText_intercalate path.valid]

end PalletTypes.Path
