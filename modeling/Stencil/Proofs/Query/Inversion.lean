import Mathlib.Data.List.DropRight
import Stencil.Proofs.Path.Canonical

/-!
# What a query was read from

Every reader of queries is turned around here: from what it found follows how
the characters in front of it begin and what it left over.  A query that is
read to its end is a run of segments, and only blanks stand between them.
Behind a dot stands a name, and brackets hold selectors, each followed by the
closing bracket or by a comma.
-/

namespace Stencil.Query

/-! ## Whole queries -/

/-- A query that is read to its end is empty, or a segment stands in front of the rest. -/
theorem readSegments_cases
    {fuel : Nat} {characters : List Char} {segments : List QuerySegment}
    (read : readSegments fuel characters = (segments, [])) :
    (characters = [] ∧ segments = []) ∨
      ∃ fewer segment behind tail,
        fuel = fewer + 1 ∧
          readSegment fewer (Value.skipSpace characters) =
            some (segment, behind) ∧
          readSegments fewer behind = (tail, []) ∧
          segments = segment :: tail := by
  cases fuel with
  | zero =>
      rcases Prod.mk.inj read with ⟨rfl, rfl⟩
      exact Or.inl ⟨rfl, rfl⟩
  | succ fewer =>
      rw [readSegments] at read
      split at read
      · next segment behind found =>
          rcases Prod.mk.inj read with ⟨rfl, rest⟩
          exact Or.inr
            ⟨fewer, segment, behind, _, rfl, found, Prod.ext rfl rest, rfl⟩
      · rcases Prod.mk.inj read with ⟨rfl, rfl⟩
        exact Or.inl ⟨rfl, rfl⟩

theorem readSegments_nil (fuel : Nat) : readSegments fuel [] = ([], []) := by
  cases fuel with
  | zero => rfl
  | succ fuel =>
      cases fuel with
      | zero => rfl
      | succ fuel => simp [readSegments, readSegment, Value.skipSpace]

/-- Blanks in front of what is read to the end do not count. -/
theorem readSegments_skipSpace
    {fuel : Nat} {characters : List Char} {segments : List QuerySegment}
    (read : readSegments fuel characters = (segments, [])) :
    readSegments fuel (Value.skipSpace characters) = (segments, []) := by
  rcases readSegments_cases read with
    ⟨rfl, _⟩ | ⟨fewer, segment, behind, tail, rfl, found, rest, rfl⟩
  · exact read
  · have once :
        Value.skipSpace (Value.skipSpace characters) =
          Value.skipSpace characters :=
      List.dropWhile_idempotent Value.isSpace characters
    rw [readSegments, once, found]
    simp only [rest]

/-- Where a query is read to its end, a dot or a bracket stands behind blanks. -/
theorem followsSegment_skipSpace
    {fuel : Nat} {characters : List Char} {segments : List QuerySegment}
    (read : readSegments fuel characters = (segments, [])) :
    FollowsSegment (Value.skipSpace characters) := by
  rcases readSegments_cases read with
    ⟨rfl, _⟩ | ⟨fewer, segment, behind, tail, rfl, found, _, _⟩
  · intro first member
    cases member
  · intro first member
    rcases List.head?_eq_some_iff.mp member with ⟨rest, shape⟩
    rw [shape] at found
    cases fewer with
    | zero => cases found
    | succ fewer =>
        by_cases dot : first = '.'
        · exact Or.inl dot
        · by_cases bracket : first = '['
          · exact Or.inr bracket
          · simp [readSegment, dot, bracket] at found

theorem read?_eq_some
    {text : String} {query : Query}
    (read : read? text = some query) :
    ∃ rest,
      text.toList = '$' :: rest ∧
        readSegments (fuelFor rest) rest = (query.segments, []) := by
  rw [read?] at read
  split at read
  · next rest root =>
      refine ⟨rest, root, ?_⟩
      split at read
      · next complete =>
          rcases Option.some.inj read with rfl
          exact complete
      · cases read
  · cases read

/-! ## Names behind a dot -/

theorem readName_eq_some
    {characters rest : List Char} {name : String}
    (read : readName characters = some (name, rest)) :
    name = String.ofList (characters.takeWhile isNamePart) ∧
      rest = characters.dropWhile isNamePart := by
  cases characters with
  | nil => cases read
  | cons first behind =>
      rw [readName] at read
      split at read
      · next start =>
          have part : isNamePart first = true := by
            rw [isNamePart, start, Bool.true_or]
          rcases Prod.mk.inj (Option.some.inj read) with ⟨rfl, rfl⟩
          rw [List.takeWhile_cons_of_pos part, List.dropWhile_cons_of_pos part]
          exact ⟨rfl, rfl⟩
      · cases read

/-- A dot in front of neither another dot nor a star is followed by a name. -/
theorem readSegment_dot
    {fuel : Nat} {characters behind : List Char} {segment : QuerySegment}
    (single : ∀ first ∈ characters.head?, first ≠ '.' ∧ first ≠ '*')
    (read : readSegment fuel ('.' :: characters) = some (segment, behind)) :
    segment =
        .children
          [.member (String.ofList (characters.takeWhile isNamePart))] ∧
      behind = characters.dropWhile isNamePart := by
  cases fuel with
  | zero => cases read
  | succ fuel =>
      have named :
          (readName characters).map (fun read =>
            (QuerySegment.children [.member read.1], read.2)) =
            some (segment, behind) := by
        cases characters with
        | nil => simpa [readSegment] using read
        | cons first rest =>
            rcases single first rfl with ⟨dot, star⟩
            simpa [readSegment, dot, star] using read
      rcases Option.map_eq_some_iff.mp named with ⟨⟨name, _⟩, found, equal⟩
      rcases Prod.mk.inj equal with ⟨rfl, rfl⟩
      rcases readName_eq_some found with ⟨rfl, rfl⟩
      exact ⟨rfl, rfl⟩

/-! ## Brackets -/

theorem readSegment_bracket
    {fuel : Nat} {characters rest : List Char} {segment : QuerySegment}
    (read : readSegment fuel ('[' :: characters) = some (segment, rest)) :
    ∃ fewer selectors,
      segment = .children selectors ∧
        readSelectors fewer (Value.skipSpace characters) =
          some (selectors, rest) := by
  cases fuel with
  | zero => cases read
  | succ fewer =>
      rw [readSegment] at read
      rcases Option.map_eq_some_iff.mp read with ⟨⟨selectors, _⟩, found, equal⟩
      rcases Prod.mk.inj equal with ⟨rfl, rfl⟩
      exact ⟨fewer, selectors, rfl, found⟩

/-- A selector is followed by the closing bracket, or by a comma and further selectors. -/
theorem readSelectors_cases
    {fuel : Nat} {characters rest : List Char} {selectors : List Selector}
    (read : readSelectors fuel characters = some (selectors, rest)) :
    ∃ fewer selector behind,
      readSelector fewer characters = some (selector, behind) ∧
        ((Value.skipSpace behind = ']' :: rest ∧ selectors = [selector]) ∨
          ∃ further others,
            Value.skipSpace behind = ',' :: further ∧
              readSelectors fewer (Value.skipSpace further) =
                some (others, rest) ∧
              selectors = selector :: others) := by
  cases fuel with
  | zero => cases read
  | succ fewer =>
      rw [readSelectors] at read
      split at read
      · cases read
      · next selector behind found =>
          refine ⟨fewer, selector, behind, found, ?_⟩
          split at read
          · next closes =>
              rcases Prod.mk.inj (Option.some.inj read) with ⟨rfl, rfl⟩
              exact Or.inl ⟨closes, rfl⟩
          · next further continues =>
              rcases Option.map_eq_some_iff.mp read with
                ⟨⟨others, _⟩, several, equal⟩
              rcases Prod.mk.inj equal with ⟨rfl, rfl⟩
              exact Or.inr ⟨further, others, continues, several, rfl⟩
          · cases read

theorem readInteger_of_ne
    {first : Char}
    (minus : first ≠ '-')
    (rest : List Char) :
    readInteger (first :: rest) =
      (readNatural (first :: rest)).map fun read =>
        ((read.1 : Int), read.2) := by
  rw [readInteger]
  intro _ equal
  exact minus (List.cons.inj equal).1

theorem readNatural_eq_none
    {first : Char}
    (notDigit : Numeral.isDigit first = false)
    (rest : List Char) :
    readNatural (first :: rest) = none := by
  rw [readNatural]
  · simp [notDigit, Numeral.natural?]
  · intro _ equal
    rw [(List.cons.inj equal).1] at notDigit
    cases notDigit

theorem readPositions_eq_none
    {first : Char}
    (notDigit : Numeral.isDigit first = false)
    (minus : first ≠ '-')
    (colon : first ≠ ':')
    (rest : List Char) :
    readPositions (first :: rest) = none := by
  simp [readPositions, readBound, readInteger_of_ne minus,
    readNatural_eq_none notDigit, colon]

/-- The natural number in front of a selector is an index, or a colon follows it. -/
theorem readPositions_digit
    {first : Char} {characters behind : List Char} {selector : Selector}
    (digit : Numeral.isDigit first = true)
    (read :
      readPositions (first :: characters) = some (selector, behind)) :
    ∃ position left,
      readNatural (first :: characters) = some (position, left) ∧
        ((selector = .index position ∧ behind = left) ∨
          ∃ further, Value.skipSpace left = ':' :: further) := by
  have minus : first ≠ '-' := ne_of_holds digit (by decide)
  have colon : first ≠ ':' := ne_of_holds digit (by decide)
  rw [readPositions, readBound, readInteger_of_ne minus] at read
  cases natural : readNatural (first :: characters) with
  | none => simp [natural, colon] at read
  | some found =>
      rcases found with ⟨position, left⟩
      refine ⟨position, left, rfl, ?_⟩
      simp only [natural, Option.map_some] at read
      split at read
      · next _ further equal =>
          exact Or.inr ⟨further, (Prod.mk.inj equal).2⟩
      · rcases Prod.mk.inj (Option.some.inj read) with ⟨rfl, rfl⟩
        exact Or.inl ⟨rfl, rfl⟩

theorem readSelector_of_ne
    {first : Char}
    (star : first ≠ '*')
    (filter : first ≠ '?')
    (fuel : Nat) (rest : List Char) :
    readSelector (fuel + 1) (first :: rest) =
      match readText (first :: rest) with
      | some (name, behind) => some (.member name, behind)
      | none => readPositions (first :: rest) := by
  cases text : readText (first :: rest) with
  | none => simp [readSelector, star, filter, text]
  | some read => simp [readSelector, star, filter, text]

theorem readText_eq_none
    {first : Char}
    (quotation : ¬(first = '\'' ∨ first = '"'))
    (rest : List Char) :
    readText (first :: rest) = none := by
  simp [readText, quotation]

/-- A selector in quotation marks is a name. -/
theorem readSelector_quotation
    {quote : Char}
    (quotation : quote = '\'' ∨ quote = '"')
    {fuel : Nat} {characters behind : List Char} {selector : Selector}
    (read :
      readSelector fuel (quote :: characters) = some (selector, behind)) :
    ∃ other name,
      selector = .member (String.ofList name) ∧
        readQuoted quote other characters = some (name, behind) := by
  have mark : (quote = '\'' || quote = '"') = true := by
    simpa using quotation
  cases fuel with
  | zero => cases read
  | succ fuel =>
      rw [readSelector_of_ne] at read
      · split at read
        · next text =>
            rcases Prod.mk.inj (Option.some.inj read) with ⟨rfl, rfl⟩
            rw [readText, if_pos mark] at text
            rcases Option.map_eq_some_iff.mp text with
              ⟨⟨name, _⟩, found, equal⟩
            rcases Prod.mk.inj equal with ⟨rfl, rfl⟩
            exact ⟨_, name, rfl, found⟩
        · rw [readPositions_eq_none] at read
          · cases read
          all_goals rcases quotation with rfl | rfl <;> decide
      all_goals rcases quotation with rfl | rfl <;> decide

/-- A selector that begins with a digit is an index or a slice. -/
theorem readSelector_digit
    {first : Char}
    (digit : Numeral.isDigit first = true)
    {fuel : Nat} {characters behind : List Char} {selector : Selector}
    (read :
      readSelector fuel (first :: characters) = some (selector, behind)) :
    ∃ position left,
      readNatural (first :: characters) = some (position, left) ∧
        ((selector = .index position ∧ behind = left) ∨
          ∃ further, Value.skipSpace left = ':' :: further) := by
  have other {mark : Char} (notDigit : Numeral.isDigit mark = false) :
      first ≠ mark :=
    ne_of_holds digit notDigit
  have quotation : ¬(first = '\'' ∨ first = '"') :=
    not_or.mpr ⟨other (by decide), other (by decide)⟩
  cases fuel with
  | zero => cases read
  | succ fuel =>
      rw [readSelector_of_ne (other (by decide)) (other (by decide)),
        readText_eq_none quotation] at read
      exact readPositions_digit digit read

/-! ## Quoted names -/

/--
A query reads one code point behind `\u`, or two halves of one with another
`\u` between them.
-/
theorem hexadecimal?_of_readUnits
    {characters behind : List Char} {character : Char}
    (read : readUnits characters = some (character, behind)) :
    ∃ unit rest,
      Text.hexadecimal? 4 characters = some (unit, rest) ∧
        (rest = behind ∨
          ∃ low second,
            rest = '\\' :: 'u' :: second ∧
              Text.hexadecimal? 4 second = some (low, behind)) := by
  have escaped : Text.escapedUnits? characters = some (character, behind) := by
    rw [readUnits] at read
    split at read
    · split at read
      · cases read
      · exact read
    · cases read
  rw [Text.escapedUnits?] at escaped
  split at escaped
  · cases escaped
  · next unit rest units =>
      refine ⟨unit, rest, units, ?_⟩
      split at escaped
      · split at escaped
        · next second =>
            split at escaped
            · next low after lows =>
                split at escaped
                · rcases Option.map_eq_some_iff.mp escaped with ⟨_, _, same⟩
                  rcases Prod.mk.inj same with ⟨_, rfl⟩
                  exact Or.inr ⟨low, second, rfl, lows⟩
                · cases escaped
            · cases escaped
        · cases escaped
      · rcases Option.map_eq_some_iff.mp escaped with ⟨_, _, same⟩
        exact Or.inl (Prod.mk.inj same).2

/-- The three ways in which a quoted name of a query spells a character in front of others. -/
inductive Spells (quote character : Char) (rest : List Char) :
    List Char → Prop where
  | units
      (digits : List Char)
      (read : readUnits digits = some (character, rest)) :
      Spells quote character rest ('\\' :: 'u' :: digits)
  | mark
      (letter : Char)
      (notUnits : letter ≠ 'u')
      (stands :
        (if letter = quote then some quote
          else if letter = '"' then none
          else Value.simpleEscape? letter) =
          some character) :
      Spells quote character rest ('\\' :: letter :: rest)
  | itself
      (notBackslash : character ≠ '\\')
      (inside : character ≠ quote) :
      Spells quote character rest (character :: rest)

/-- What a query reads between quotation marks is nothing, or a character in front of the same. -/
theorem readQuoted_cases
    {quote : Char} {fuel : Nat} {characters name behind : List Char}
    (read :
      readQuoted quote (fuel + 1) characters = some (name, behind)) :
    (characters = quote :: behind ∧ name = []) ∨
      ∃ character tail rest,
        name = character :: tail ∧
          Spells quote character rest characters ∧
          readQuoted quote fuel rest = some (tail, behind) := by
  have front
      {character : Char} {rest : List Char}
      (spells : Spells quote character rest characters)
      (read :
        (readQuoted quote fuel rest).map (fun read =>
          (character :: read.1, read.2)) =
          some (name, behind)) :
      ∃ character tail rest,
        name = character :: tail ∧
          Spells quote character rest characters ∧
          readQuoted quote fuel rest = some (tail, behind) := by
    rcases Option.map_eq_some_iff.mp read with ⟨⟨tail, _⟩, found, equal⟩
    rcases Prod.mk.inj equal with ⟨rfl, rfl⟩
    exact ⟨character, tail, rest, rfl, spells, found⟩
  rw [readQuoted.eq_def] at read
  split at read
  · cases read
  · cases read
  · next digits same =>
      rcases Nat.succ.inj same with rfl
      split at read
      · next units => exact Or.inr (front (.units digits units) read)
      · cases read
  · next letter rest notUnits same =>
      rcases Nat.succ.inj same with rfl
      dsimp only at read
      split at read
      · next stands => exact Or.inr (front (.mark letter notUnits stands) read)
      · cases read
  · next character rest _ _ same =>
      rcases Nat.succ.inj same with rfl
      split at read
      · next closes =>
          rcases Prod.mk.inj (Option.some.inj read) with ⟨rfl, rfl⟩
          exact Or.inl ⟨by rw [closes], rfl⟩
      · next inside =>
          split at read
          · cases read
          · next printable =>
              have notBackslash : character ≠ '\\' := by
                rintro rfl
                exact printable (by simp)
              exact Or.inr (front (.itself notBackslash inside) read)

end Stencil.Query
