import Mathlib.Data.List.DropRight
import Stencil.Text.Pieces

/-!
# Trimmed pieces

A trimmed text has no blanks around it, and trimming leaves it alone.  The
arguments of an operator are trimmed pieces without a colon, and such pieces
with colons between them are cut into themselves again.
-/

namespace Stencil.Text

/-! ## Trimmed texts -/

/-- A text with no blanks around it. -/
structure IsTrimmed (characters : List Char) : Prop where
  head_ink : ∀ first ∈ characters.head?, isBlank first = false
  last_ink : ∀ last ∈ characters.getLast?, isBlank last = false

theorem IsTrimmed.trim_eq
    {characters : List Char}
    (trimmed : IsTrimmed characters) :
    trim characters = characters :=
  trim_eq_self trimmed.head_ink trimmed.last_ink

theorem isTrimmed_of_forall
    {characters : List Char}
    (ink : ∀ character ∈ characters, isBlank character = false) :
    IsTrimmed characters where
  head_ink := fun first member => ink first (List.mem_of_mem_head? member)
  last_ink := fun last member => ink last (List.mem_of_mem_getLast? member)

theorem trimEnd_eq_rdropWhile (characters : List Char) :
    trimEnd characters = characters.rdropWhile isBlank :=
  rfl

/-- Trimming leaves nothing exactly of a text that holds blanks only. -/
theorem trim_eq_nil_iff (characters : List Char) :
    trim characters = [] ↔
      ∀ character ∈ characters, isBlank character = true := by
  rw [trim, trimEnd_eq_rdropWhile, List.rdropWhile_eq_nil_iff, trimStart]
  constructor
  · intro blank character member
    rw [← List.takeWhile_append_dropWhile (p := isBlank) (l := characters),
      List.mem_append] at member
    rcases member with front | behind
    · exact List.mem_takeWhile_imp front
    · exact blank character behind
  · intro blank character member
    exact blank character ((List.dropWhile_sublist isBlank).subset member)

/-- Trimming leaves no blanks around a text. -/
theorem isTrimmed_trim (characters : List Char) :
    IsTrimmed (trim characters) where
  head_ink := by
    intro first member
    rw [trim, trimEnd_eq_rdropWhile] at member
    -- What is cut off behind leaves the first character in its place.
    rcases List.rdropWhile_prefix isBlank (trimStart characters) with
      ⟨blanks, whole⟩
    have ahead : (trimStart characters).head? = some first := by
      rw [← whole, List.head?_append, Option.mem_def.mp member]
      rfl
    have stop := List.head?_dropWhile_not isBlank characters
    rw [trimStart] at ahead
    rw [ahead] at stop
    exact stop
  last_ink := by
    intro last member
    rw [trim, trimEnd_eq_rdropWhile] at member
    rcases List.getLast?_eq_some_iff.mp member with ⟨before, shape⟩
    have nonempty : (trimStart characters).rdropWhile isBlank ≠ [] := by
      rw [shape]
      exact List.concat_ne_nil last before
    have stop := List.rdropWhile_last_not isBlank (trimStart characters) nonempty
    simpa [shape] using stop

/-- Trimming keeps a first character that is no blank. -/
theorem exists_trim_cons
    {first : Char}
    (ink : isBlank first = false)
    (rest : List Char) :
    ∃ behind, trim (first :: rest) = first :: behind := by
  have start : trimStart (first :: rest) = first :: rest := by
    simp [trimStart, ink]
  rcases List.rdropWhile_prefix isBlank (first :: rest) with ⟨blanks, whole⟩
  rw [trim, start, trimEnd_eq_rdropWhile]
  cases kept : (first :: rest).rdropWhile isBlank with
  | nil =>
      have blank := List.rdropWhile_eq_nil_iff.mp kept first List.mem_cons_self
      rw [ink] at blank
      cases blank
  | cons other behind =>
      rw [kept] at whole
      rcases List.cons.inj whole with ⟨rfl, _⟩
      exact ⟨behind, rfl⟩

theorem trim_sublist (characters : List Char) :
    (trim characters).Sublist characters :=
  (List.rdropWhile_prefix isBlank (trimStart characters)).sublist.trans
    (List.dropWhile_sublist isBlank)

/-- Around an inner part the ends decide whether a text is trimmed. -/
theorem IsTrimmed.cons
    {first : Char} {rest : List Char}
    (ink : isBlank first = false)
    (ends : ∀ last ∈ rest.getLast?, isBlank last = false) :
    IsTrimmed (first :: rest) where
  head_ink := by
    intro other member
    obtain rfl : first = other := by simpa using member
    exact ink
  last_ink := by
    intro last member
    cases rest with
    | nil =>
        obtain rfl : first = last := by simpa using member
        exact ink
    | cons next rest => exact ends last member

/-! ## Pieces -/

theorem cutAt_eq_splitOn (separator : Char) (characters : List Char) :
    cutAt separator characters = characters.splitOn separator := by
  induction characters with
  | nil => rfl
  | cons character rest ih =>
      rw [List.splitOn_cons_eq_if_modifyHead, cutAt, ih]
      by_cases same : character = separator
      · simp [same]
      · simp only [same, if_false, beq_iff_eq]
        cases pieces : rest.splitOn separator with
        | nil => exact absurd pieces (List.splitOn_ne_nil separator rest)
        | cons piece pieces => rfl

/-- No piece between the occurrences of a character holds it. -/
theorem not_mem_of_mem_cutAt
    {separator : Char} {characters piece : List Char}
    (member : piece ∈ cutAt separator characters) :
    separator ∉ piece := by
  induction characters generalizing piece with
  | nil =>
      rw [cutAt, List.mem_singleton] at member
      rw [member]
      exact List.not_mem_nil
  | cons character rest ih =>
      rw [cutAt] at member
      by_cases same : character = separator
      · rw [if_pos same] at member
        rcases List.mem_cons.mp member with rfl | later
        · exact List.not_mem_nil
        · exact ih later
      · rw [if_neg same] at member
        cases pieces : cutAt separator rest with
        | nil =>
            rw [cutAt_eq_splitOn] at pieces
            exact absurd pieces (List.splitOn_ne_nil separator rest)
        | cons next others =>
            rw [pieces] at member ih
            rcases List.mem_cons.mp member with rfl | later
            · rw [List.mem_cons, not_or]
              exact ⟨Ne.symm same, ih List.mem_cons_self⟩
            · exact ih (List.mem_cons_of_mem next later)

/-- A text that can stand between colons: it is trimmed and holds no colon. -/
structure IsArgument (characters : List Char) : Prop where
  no_colon : ':' ∉ characters
  trimmed : IsTrimmed characters

theorem isArgument_nil : IsArgument [] where
  no_colon := List.not_mem_nil
  trimmed := isTrimmed_of_forall (by simp)

/-- Trimming a piece leaves no colon that was not there. -/
theorem isArgument_of_mem_arguments
    {characters piece : List Char}
    (member : piece ∈ arguments characters) :
    IsArgument piece := by
  rcases List.mem_map.mp member with ⟨whole, inside, rfl⟩
  refine ⟨?_, isTrimmed_trim whole⟩
  intro colon
  exact not_mem_of_mem_cutAt inside ((trim_sublist whole).subset colon)

theorem arguments_of_not_mem
    {piece : List Char}
    (free : ':' ∉ piece) :
    arguments piece = [trim piece] := by
  rw [arguments, cutAt_eq_splitOn, List.splitOn_eq_singleton free,
    List.map_singleton]

theorem arguments_append_cons
    {piece : List Char}
    (free : ':' ∉ piece)
    (rest : List Char) :
    arguments (piece ++ ':' :: rest) = trim piece :: arguments rest := by
  rw [arguments, cutAt_eq_splitOn,
    List.splitOn_append_cons_self_of_not_mem free, List.map_cons,
    ← cutAt_eq_splitOn]
  rfl

end Stencil.Text
