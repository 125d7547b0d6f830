import Mathlib.Data.List.Basic
import Stencil.Text.Pieces

/-!
# Cutting and gluing

A separator that is not empty cuts a text at its occurrences from left to right,
and each occurrence is the first that begins behind the one before.  There is
just one way to cut a text so, and it is the one that is computed.  No piece then
holds the separator, and gluing puts back what the cut took away, also behind the
empty separator, which parts every character from the next.
-/

namespace Stencil.Text

/-! ## Texts in front -/

/-- What stands behind a text is found exactly when the text stands in front. -/
theorem behind?_eq_some_iff
    {front characters rest : List Char} :
    behind? front characters = some rest ↔ characters = front ++ rest := by
  induction front generalizing characters with
  | nil => simp [behind?]
  | cons expected front ih =>
      cases characters with
      | nil => simp [behind?]
      | cons character characters =>
          rw [behind?, List.cons_append, List.cons.injEq]
          by_cases same : expected = character
          · rw [if_pos same, ih]
            exact ⟨fun found => ⟨same.symm, found⟩, And.right⟩
          · rw [if_neg same]
            exact ⟨nofun, fun split => absurd split.1.symm same⟩

theorem behind?_eq_none_iff
    {front characters : List Char} :
    behind? front characters = none ↔ ¬front <+: characters := by
  rw [Option.eq_none_iff_forall_ne_some]
  constructor
  · rintro missing ⟨rest, split⟩
    exact missing rest (behind?_eq_some_iff.mpr split.symm)
  · intro other rest found
    exact other ⟨rest, (behind?_eq_some_iff.mp found).symm⟩

/-! ## Cuts -/

/-- No occurrence of the separator begins within the piece, with a text behind it. -/
def Misses (separator piece behind : List Char) : Prop :=
  ∀ tail, tail <:+ piece → tail ≠ [] → ¬separator <+: tail ++ behind

theorem misses_nil (separator behind : List Char) :
    Misses separator [] behind := by
  intro tail within nonempty
  exact absurd (List.suffix_nil.mp within) nonempty

theorem misses_cons_iff
    {separator piece behind : List Char} {first : Char} :
    Misses separator (first :: piece) behind ↔
      ¬separator <+: first :: (piece ++ behind) ∧
        Misses separator piece behind := by
  constructor
  · intro misses
    refine ⟨misses _ List.suffix_rfl (List.cons_ne_nil first piece), ?_⟩
    intro tail within
    exact misses tail (within.trans (List.suffix_cons first piece))
  · rintro ⟨ahead, misses⟩ tail within nonempty
    rcases List.suffix_cons_iff.mp within with rfl | inside
    · exact ahead
    · exact misses tail inside nonempty

/-- A piece in which no occurrence begins holds none. -/
theorem Misses.not_isInfix
    {separator piece behind : List Char}
    (misses : Misses separator piece behind)
    (nonempty : separator ≠ []) :
    ¬separator <:+: piece := by
  rintro ⟨front, rest, split⟩
  apply misses (separator ++ rest)
  · exact ⟨front, by rw [← List.append_assoc, split]⟩
  · exact List.append_ne_nil_of_left_ne_nil nonempty rest
  · rw [List.append_assoc]
    exact List.prefix_append separator (rest ++ behind)

/-- Up to an occurrence there is nothing more than a piece in which none begins. -/
theorem Misses.length_le
    {separator piece other rest behind : List Char}
    (misses : Misses separator other behind)
    (same : piece ++ (separator ++ rest) = other ++ behind) :
    other.length ≤ piece.length := by
  rcases List.append_eq_append_iff.mp same with
    ⟨between, rfl, split⟩ | ⟨between, rfl, _⟩
  · have empty : between = [] := by
      by_contra nonempty
      apply misses between (List.suffix_append piece between) nonempty
      rw [← split]
      exact List.prefix_append separator rest
    exact Nat.le_of_eq (by rw [empty, List.append_nil])
  · rw [List.length_append]
    exact Nat.le_add_right _ _

/-- The pieces of a text around the occurrences of a separator from left to right. -/
inductive Cuts (separator : List Char) :
    List Char → List (List Char) → Prop where
  | whole {piece : List Char} (misses : Misses separator piece []) :
      Cuts separator piece [piece]
  | behind {piece rest : List Char} {pieces : List (List Char)}
      (misses : Misses separator piece (separator ++ rest))
      (cuts : Cuts separator rest pieces) :
      Cuts separator (piece ++ (separator ++ rest)) (piece :: pieces)

namespace Cuts

/-- A character at which no occurrence begins belongs to the first piece. -/
theorem cons
    {separator characters piece : List Char}
    {pieces : List (List Char)} {first : Char}
    (ahead : ¬separator <+: first :: characters)
    (cuts : Cuts separator characters (piece :: pieces)) :
    Cuts separator (first :: characters) ((first :: piece) :: pieces) := by
  cases cuts with
  | whole misses =>
      apply whole
      rw [misses_cons_iff, List.append_nil]
      exact ⟨ahead, misses⟩
  | behind misses cuts =>
      exact behind (misses_cons_iff.mpr ⟨ahead, misses⟩) cuts

theorem ne_nil
    {separator characters : List Char} {pieces : List (List Char)}
    (cuts : Cuts separator characters pieces) :
    pieces ≠ [] := by
  cases cuts with
  | whole misses => exact List.cons_ne_nil _ _
  | behind misses cuts => exact List.cons_ne_nil _ _

/-- Where a text is cut is decided by the separator alone. -/
theorem unique
    {separator characters : List Char} {pieces others : List (List Char)}
    (nonempty : separator ≠ [])
    (cuts : Cuts separator characters pieces)
    (further : Cuts separator characters others) :
    pieces = others := by
  have occupies : 0 < separator.length := List.length_pos_iff.mpr nonempty
  induction cuts generalizing others with
  | whole misses =>
      cases further with
      | whole missesOther => rfl
      | behind missesOther further =>
          have short := misses.length_le (List.append_nil _).symm
          simp only [List.length_append] at short
          omega
  | @behind piece rest pieces misses cuts ih =>
      generalize same : piece ++ (separator ++ rest) = whole at further
      cases further with
      | whole missesOther =>
          have short := missesOther.length_le (same.trans (List.append_nil _).symm)
          simp only [← same, List.length_append] at short
          omega
      | behind missesOther further =>
          -- Neither of the two occurrences begins within the piece in front of the other.
          have lengths :=
            Nat.le_antisymm (misses.length_le same.symm) (missesOther.length_le same)
          rcases List.append_inj same lengths with ⟨rfl, behind⟩
          rcases List.append_cancel_left behind with rfl
          rw [ih further]

/-- Gluing the pieces gives the text back. -/
theorem glue_eq
    {separator characters : List Char} {pieces : List (List Char)}
    (cuts : Cuts separator characters pieces) :
    glue separator pieces = characters := by
  induction cuts with
  | whole misses => rfl
  | @behind piece rest pieces misses cuts ih =>
      cases pieces with
      | nil => exact absurd rfl cuts.ne_nil
      | cons next pieces => rw [glue, ih, List.append_assoc]

theorem not_isInfix
    {separator characters piece : List Char} {pieces : List (List Char)}
    (nonempty : separator ≠ [])
    (cuts : Cuts separator characters pieces)
    (member : piece ∈ pieces) :
    ¬separator <:+: piece := by
  induction cuts with
  | whole misses =>
      rcases List.mem_singleton.mp member with rfl
      exact misses.not_isInfix nonempty
  | behind misses cuts ih =>
      rcases List.mem_cons.mp member with rfl | later
      · exact misses.not_isInfix nonempty
      · exact ih later

end Cuts

/-- The text is cut from the first character that is not passed over. -/
theorem cuts_cutFrom
    {separator : List Char}
    (nonempty : separator ≠ [])
    (skip : Nat) (characters : List Char) :
    Cuts separator (characters.drop skip)
      (cutFrom separator skip characters) := by
  induction characters generalizing skip with
  | nil =>
      rw [List.drop_nil, cutFrom]
      exact .whole (misses_nil separator [])
  | cons character rest ih =>
      cases skip with
      | succ skip => exact ih skip
      | zero =>
          rw [List.drop_zero, cutFrom]
          split
          · next behind found =>
              have whole := behind?_eq_some_iff.mp found
              cases separator with
              | nil => exact absurd rfl nonempty
              | cons first others =>
                  -- What is passed over is the separator without its first character.
                  rw [List.cons_append] at whole
                  rcases List.cons.inj whole with ⟨rfl, rfl⟩
                  have cuts := ih others.length
                  rw [List.drop_left] at cuts
                  exact .behind (misses_nil _ _) cuts
          · next missing =>
              have ahead := behind?_eq_none_iff.mp missing
              have cuts := ih 0
              rw [List.drop_zero] at cuts
              split
              · next piece pieces cut =>
                  rw [cut] at cuts
                  exact cuts.cons ahead
              · next empty => exact absurd empty cuts.ne_nil

/-- A separator that is not empty has one way to cut a text, and it is the computed one. -/
theorem cut_eq_iff_cuts
    {separator characters : List Char} {pieces : List (List Char)}
    (nonempty : separator ≠ []) :
    cut separator characters = pieces ↔ Cuts separator characters pieces := by
  rw [cut, List.isEmpty_eq_false_iff.mpr nonempty, if_neg Bool.false_ne_true]
  have computed := cuts_cutFrom nonempty 0 characters
  constructor
  · rintro rfl
    exact computed
  · exact computed.unique nonempty

/-- Of two occurrences that overlap the first one cuts. -/
example :
    cut ['a', 'a'] ['b', 'a', 'a', 'a', 'c'] = [['b'], ['a', 'c']] := by
  decide

/-! ## Gluing -/

/-- Without a separator gluing puts one piece behind the other. -/
theorem glue_nil_eq_flatten (pieces : List (List Char)) :
    glue [] pieces = pieces.flatten := by
  induction pieces with
  | nil => rfl
  | cons piece pieces ih =>
      cases pieces with
      | nil => rw [glue, List.flatten_singleton]
      | cons next pieces =>
          rw [glue, ih, List.append_nil, List.flatten_cons (l := piece)]

/-- Gluing the pieces of a text gives the text back, whatever it was cut at. -/
theorem glue_cut (separator characters : List Char) :
    glue separator (cut separator characters) = characters := by
  cases separator with
  | nil =>
      rw [glue_nil_eq_flatten, cut, if_pos List.isEmpty_nil, List.flatten_append,
        List.flatten_cons, List.nil_append, List.flatten_singleton, List.append_nil,
        ← List.flatMap_def]
      exact List.flatMap_singleton' characters
  | cons first others =>
      exact ((cut_eq_iff_cuts (List.cons_ne_nil first others)).mp rfl).glue_eq

theorem not_isInfix_of_mem_cut
    {separator characters piece : List Char}
    (nonempty : separator ≠ [])
    (member : piece ∈ cut separator characters) :
    ¬separator <:+: piece :=
  ((cut_eq_iff_cuts nonempty).mp rfl).not_isInfix nonempty member

end Stencil.Text
