import Mathlib.Data.List.TakeWhile
import Stencil.Proofs.Path.Canonical

/-!
# What a singular path was read from

The readers of singular paths are turned around: a dotted name is a trimmed run
of name characters, and brackets hold a quoted name or an index between blanks.
The blanks and the name characters of queries are fewer than those of singular
paths, so that their runs lie within those of singular paths.
-/

namespace Stencil

/-! ## Runs within runs -/

section Runs

variable
  {smaller larger : Char → Bool}
  (within :
    ∀ character, smaller character = true → larger character = true)
  (characters : List Char)

include within

theorem forall_mem_takeWhile_of_imp :
    ∀ character ∈ characters.takeWhile smaller, larger character = true :=
  fun character member => within character (List.mem_takeWhile_imp member)

theorem dropWhile_dropWhile_of_imp :
    (characters.dropWhile smaller).dropWhile larger =
      characters.dropWhile larger :=
  calc
    (characters.dropWhile smaller).dropWhile larger
    _ = (characters.takeWhile smaller ++
          characters.dropWhile smaller).dropWhile larger := by
      rw [List.dropWhile_append_of_pos
        (forall_mem_takeWhile_of_imp within characters)]
    _ = characters.dropWhile larger := by
      rw [List.takeWhile_append_dropWhile]

theorem takeWhile_append_takeWhile_of_imp :
    characters.takeWhile smaller ++
        (characters.dropWhile smaller).takeWhile larger =
      characters.takeWhile larger :=
  calc
    characters.takeWhile smaller ++
        (characters.dropWhile smaller).takeWhile larger
    _ = (characters.takeWhile smaller ++
          characters.dropWhile smaller).takeWhile larger := by
      rw [List.takeWhile_append_of_pos
        (forall_mem_takeWhile_of_imp within characters)]
    _ = characters.takeWhile larger := by
      rw [List.takeWhile_append_dropWhile]

end Runs

/-! ## Blanks and name characters -/

theorem isBlank_of_isSpace
    (character : Char)
    (space : Value.isSpace character = true) :
    Text.isBlank character = true := by
  simp only [Value.isSpace, Bool.or_eq_true, decide_eq_true_eq] at space
  rcases space with ((rfl | rfl) | rfl) | rfl
  all_goals decide

theorem isBlank_of_isIdentifierPart
    {character : Char}
    (part : isIdentifierPart character = true) :
    Text.isBlank character = false :=
  forall_isIdentifierPart (fun other => Text.isBlank other = false)
    (by decide) part

theorem isDigit_of_isBlank
    {character : Char}
    (blank : Text.isBlank character = true) :
    Numeral.isDigit character = false := by
  rw [← Bool.not_eq_true]
  intro digit
  rw [isBlank_of_isIdentifierPart (by simp [isIdentifierPart, digit])] at blank
  cases blank

/-- A kind of characters that has no mark of a path is a kind of name characters. -/
theorem isNameCharacter_of_imp
    {holds : Char → Bool}
    (unmarked :
      ['.', '[', ']', '*', '\'', '"'].all (fun mark => !holds mark) = true)
    (character : Char)
    (inside : holds character = true) :
    Location.isNameCharacter character = true := by
  rw [Location.isNameCharacter, Bool.not_eq_true', ← Bool.not_eq_true,
    List.contains_iff_mem]
  intro marked
  have outside := List.all_eq_true.mp unmarked character marked
  rw [inside] at outside
  cases outside

theorem isNameCharacter_of_isSpace :
    ∀ character, Value.isSpace character = true →
      Location.isNameCharacter character = true :=
  isNameCharacter_of_imp (by decide)

theorem isNameCharacter_of_isNamePart :
    ∀ character, Query.isNamePart character = true →
      Location.isNameCharacter character = true :=
  isNameCharacter_of_imp (by decide)

theorem Location.trimStart_of_not_isBlank
    {first : Char} {rest : List Char}
    (ink : Text.isBlank first = false) :
    Text.trimStart (first :: rest) = first :: rest := by
  simp [Text.trimStart, ink]

theorem Text.trimStart_skipSpace (characters : List Char) :
    Text.trimStart (Value.skipSpace characters) =
      Text.trimStart characters :=
  dropWhile_dropWhile_of_imp isBlank_of_isSpace characters

/-- What stands behind the blanks of queries stands behind all blanks. -/
theorem skipSpace_of_trimStart
    {characters closing rest : List Char} {mark first : Char}
    (trimmed : Text.trimStart characters = mark :: closing)
    (skipped : Value.skipSpace characters = first :: rest)
    (ink : Text.isBlank first = false) :
    first = mark ∧ rest = closing := by
  rw [← Text.trimStart_skipSpace, skipped,
    Location.trimStart_of_not_isBlank ink] at trimmed
  exact List.cons.inj trimmed

theorem endsRun_of_skipSpace
    {characters rest : List Char} {first : Char}
    (skipped : Value.skipSpace characters = first :: rest)
    (notDigit : Numeral.isDigit first = false) :
    EndsRun Numeral.isDigit characters := by
  intro character member
  rcases List.head?_eq_some_iff.mp member with ⟨behind, rfl⟩
  by_cases space : Value.isSpace character = true
  · exact isDigit_of_isBlank (isBlank_of_isSpace character space)
  · rw [Bool.not_eq_true] at space
    rw [Value.skipSpace, List.dropWhile_cons, space] at skipped
    rw [(List.cons.inj skipped).1]
    exact notDigit

/-- Blanks behind a name are trimmed away with those around it. -/
theorem Text.trim_append
    {blanks : List Char}
    (blank : ∀ character ∈ blanks, Text.isBlank character = true)
    (name : List Char) :
    Text.trim (name ++ blanks) = Text.trim name := by
  have nothing : blanks.dropWhile Text.isBlank = [] :=
    List.dropWhile_eq_nil_iff.mpr blank
  rw [Text.trim, Text.trim, Text.trimStart, Text.trimStart,
    List.dropWhile_append, nothing]
  split
  · next none =>
      rw [List.isEmpty_iff.mp none]
  · rw [Text.trimEnd, Text.trimEnd, List.reverse_append,
      List.dropWhile_append_of_pos]
    simpa using blank

namespace Location

/-! ## Names behind a dot -/

theorem readDotted_eq_some
    {characters rest : List Char} {segment : Segment}
    (read : readDotted characters = some (segment, rest)) :
    Text.trim (characters.takeWhile isNameCharacter) ≠ [] ∧
      segment =
        .member
          (String.ofList
            (Text.trim (characters.takeWhile isNameCharacter))) ∧
      rest = characters.dropWhile isNameCharacter := by
  rw [readDotted] at read
  split at read
  · cases read
  · next named =>
      rcases Prod.mk.inj (Option.some.inj read) with ⟨rfl, rfl⟩
      exact ⟨fun empty => named (by rw [empty]; rfl), rfl, rfl⟩

/-- A dotted name does not begin with a mark of a path. -/
theorem isNameCharacter_head_of_readDotted
    {characters rest : List Char} {segment : Segment}
    (read : readDotted characters = some (segment, rest)) :
    ∀ first ∈ characters.head?, isNameCharacter first = true := by
  intro first member
  rcases List.head?_eq_some_iff.mp member with ⟨behind, rfl⟩
  have named := (readDotted_eq_some read).1
  cases inside : isNameCharacter first with
  | true => rfl
  | false =>
      rw [List.takeWhile_cons, inside] at named
      exact absurd rfl named

/-! ## Brackets -/

theorem readBracketed_eq_some
    {characters rest : List Char} {segment : Segment}
    (read : readBracketed characters = some (segment, rest)) :
    ∃ behind,
      readSelector (Text.trimStart characters) = some (segment, behind) ∧
        Text.trimStart behind = ']' :: rest := by
  rw [readBracketed] at read
  split at read
  · cases read
  · next found =>
      split at read
      · next closes =>
          rcases Prod.mk.inj (Option.some.inj read) with ⟨rfl, rfl⟩
          exact ⟨_, found, closes⟩
      · cases read

/-- What stands between brackets is a quoted name or begins with a digit. -/
theorem readSelector_cases
    {characters behind : List Char} {segment : Segment}
    (read : readSelector characters = some (segment, behind)) :
    (∃ quote rest content,
      (quote = '\'' ∨ quote = '"') ∧
        characters = quote :: rest ∧
        readQuotedName quote rest = some (content, behind) ∧
        segment = .member (String.ofList content)) ∨
      ∃ first rest,
        Numeral.isDigit first = true ∧
          characters = first :: rest ∧
          readIndex characters = some (segment, behind) := by
  have named
      {quote : Char} {rest : List Char}
      (read : (readQuotedName quote rest).map (fun read =>
        (Segment.member (String.ofList read.1), read.2)) =
          some (segment, behind)) :
      ∃ content,
        readQuotedName quote rest = some (content, behind) ∧
          segment = .member (String.ofList content) := by
    rcases Option.map_eq_some_iff.mp read with ⟨⟨content, _⟩, found, equal⟩
    rcases Prod.mk.inj equal with ⟨rfl, rfl⟩
    exact ⟨content, found, rfl⟩
  rw [readSelector.eq_def] at read
  split at read
  · next rest =>
      rcases named read with ⟨content, found, same⟩
      exact Or.inl ⟨'\'', rest, content, Or.inl rfl, rfl, found, same⟩
  · next rest =>
      rcases named read with ⟨content, found, same⟩
      exact Or.inl ⟨'"', rest, content, Or.inr rfl, rfl, found, same⟩
  · right
    cases characters with
    | nil => cases read
    | cons first rest =>
        refine ⟨first, rest, ?_, rfl, read⟩
        cases digit : Numeral.isDigit first with
        | true => rfl
        | false =>
            rw [readIndex, List.takeWhile_cons, digit] at read
            cases read

end Location

end Stencil
