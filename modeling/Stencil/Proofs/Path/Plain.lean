import Stencil.Path.Address
import Stencil.Proofs.Path.Inversion
import Stencil.Proofs.Query.Inversion
import Stencil.Proofs.Text.Counts

/-!
# Plain spellings

Singular paths and queries spell names in nearly the same ways.  They read two
spellings differently.  A name behind a dot loses the blanks around it in a
singular path, while a query takes blanks beyond ASCII for parts of the name.
Between quotation marks a query knows three escapes of which a singular path
keeps the letter.  A path is plain when it holds neither, and then both readers
find the same characters in every quoted name.
-/

namespace Stencil

namespace Path

/-- The letters behind a backslash that stand for themselves in a singular path only. -/
def queryLetters : List Char :=
  ['b', 'f', 'u']

/-- Whether the name that a query reads in front has no blanks around it. -/
def opensWithInk (characters : List Char) : Bool :=
  Text.trim (characters.takeWhile Query.isNamePart) ==
    characters.takeWhile Query.isNamePart

/--
Whether no name behind a dot has blanks around it and no quoted name holds an
escape that only queries know.  The first argument is the quotation mark that
is open, if any.
-/
def isPlainFrom : Option Char → List Char → Bool
  | _, [] => true
  | none, '.' :: rest => opensWithInk rest && isPlainFrom none rest
  | none, character :: rest =>
    isPlainFrom
      (if character = '\'' ∨ character = '"' then some character else none)
      rest
  | some quote, '\\' :: letter :: rest =>
    !queryLetters.contains letter && isPlainFrom (some quote) rest
  | some quote, character :: rest =>
    isPlainFrom (if character = quote then none else some quote) rest

/-- Whether a path, trimmed and qualified by the root, is plain. -/
def isPlain (path : String) : Bool :=
  isPlainFrom none (qualified (Text.trimmed path)).toList

/-! ## Outside of quotation marks -/

theorem isPlainFrom_dot (rest : List Char) :
    isPlainFrom none ('.' :: rest) =
      (opensWithInk rest && isPlainFrom none rest) :=
  rfl

theorem isPlainFrom_mark
    {mark : Char}
    (quotation : mark = '\'' ∨ mark = '"')
    (rest : List Char) :
    isPlainFrom none (mark :: rest) = isPlainFrom (some mark) rest := by
  rcases quotation with rfl | rfl
  · rfl
  · rfl

theorem isPlainFrom_cons
    {character : Char}
    (dot : character ≠ '.')
    (quotation : ¬(character = '\'' ∨ character = '"'))
    (rest : List Char) :
    isPlainFrom none (character :: rest) = isPlainFrom none rest := by
  rw [isPlainFrom, if_neg quotation]
  exact dot

/-- A run without dots and quotation marks decides nothing. -/
theorem isPlainFrom_dropWhile
    {holds : Char → Bool}
    (dot : holds '.' = false)
    (single : holds '\'' = false)
    (double : holds '"' = false)
    (characters : List Char) :
    isPlainFrom none (characters.dropWhile holds) =
      isPlainFrom none characters := by
  apply eq_dropWhile_of_cons
  intro character rest inside
  apply isPlainFrom_cons (ne_of_holds inside dot)
  exact not_or.mpr ⟨ne_of_holds inside single, ne_of_holds inside double⟩

/-! ## Inside of quotation marks -/

theorem isPlainFrom_escaped (quote letter : Char) (rest : List Char) :
    isPlainFrom (some quote) ('\\' :: letter :: rest) =
      (!queryLetters.contains letter && isPlainFrom (some quote) rest) :=
  rfl

theorem isPlainFrom_quoted
    {character : Char}
    (notBackslash : character ≠ '\\')
    (quote : Char) (rest : List Char) :
    isPlainFrom (some quote) (character :: rest) =
      isPlainFrom (if character = quote then none else some quote) rest := by
  rw [isPlainFrom]
  intro _ _ backslash
  exact absurd backslash notBackslash

/-! ## Escapes -/

/-- Both grammars take a letter behind a backslash for one character, or only queries know it. -/
theorem unescape_eq_iff
    {quote mark character : Char}
    (quotation : quote = '\'' ∨ quote = '"')
    (stands :
      (if mark = quote then some quote
        else if mark = '"' then none
        else Value.simpleEscape? mark) =
        some character)
    (notUnits : mark ≠ 'u') :
    Location.unescape mark = character ↔
      queryLetters.contains mark = false := by
  by_cases same : mark = quote
  · rw [if_pos same] at stands
    rcases Option.some.inj stands with rfl
    rw [same]
    rcases quotation with rfl | rfl
    · decide
    · decide
  · rw [if_neg same] at stands
    split at stands
    · cases stands
    · rw [Value.simpleEscape?.eq_def] at stands
      split at stands
      all_goals first
        | cases stands; decide
        | cases stands

end Path

namespace Text

/-- The digits of a code point are neither backslashes nor quotation marks. -/
theorem exists_digits_of_hexadecimal?
    {count value : Nat} {characters rest : List Char}
    (read : hexadecimal? count characters = some (value, rest)) :
    ∃ digits,
      characters = digits ++ rest ∧
        digits.length = count ∧
        ∀ digit ∈ digits,
          digit ≠ '\\' ∧ digit ≠ '\'' ∧ digit ≠ '"' := by
  rw [hexadecimal?] at read
  split at read
  · next enough =>
      rcases Option.map_eq_some_iff.mp read with ⟨number, natural, same⟩
      rcases Prod.mk.inj same with ⟨rfl, rfl⟩
      refine
        ⟨characters.take count, (List.take_append_drop count _).symm, enough,
          ?_⟩
      rw [Numeral.natural?] at natural
      split at natural
      · cases natural
      · intro digit member
        have known := Numeral.isSome_digitValue?_of_extend? natural digit member
        refine ⟨?_, ?_, ?_⟩
        all_goals
          rintro rfl
          exact absurd known (by decide)
  · cases read

end Text

namespace Location

/-- A singular path reads the digits of a code point as letters of the name. -/
theorem readQuotedName_hexadecimal?
    {quote : Char} {count value : Nat} {characters rest : List Char}
    (quotation : quote = '\'' ∨ quote = '"')
    (read : Text.hexadecimal? count characters = some (value, rest)) :
    ∃ digits : List Char,
      digits.length = count ∧
        readQuotedName quote characters =
          (readQuotedName quote rest).map fun read =>
            (digits ++ read.1, read.2) := by
  rcases Text.exists_digits_of_hexadecimal? read with
    ⟨digits, rfl, length, plain⟩
  refine ⟨digits, length, readQuotedName_plain ?_ rest⟩
  intro digit member
  rcases plain digit member with ⟨notBackslash, notSingle, notDouble⟩
  rcases quotation with rfl | rfl
  · exact ⟨notBackslash, notSingle⟩
  · exact ⟨notBackslash, notDouble⟩

/-- What stands behind `\u` is one character of a query and several letters of a singular path. -/
theorem readQuotedName_of_readUnits
    {quote character : Char} {characters behind : List Char}
    (quotation : quote = '\'' ∨ quote = '"')
    (read : Query.readUnits characters = some (character, behind)) :
    ∃ letters : List Char,
      0 < letters.length ∧
        readQuotedName quote characters =
          (readQuotedName quote behind).map fun read =>
            (letters ++ read.1, read.2) := by
  rcases Query.hexadecimal?_of_readUnits read with
    ⟨unit, rest, units, ends | ⟨low, second, pair, lows⟩⟩
  · subst ends
    rcases readQuotedName_hexadecimal? quotation units with
      ⟨digits, length, names⟩
    exact ⟨digits, by omega, names⟩
  · subst pair
    rcases readQuotedName_hexadecimal? quotation units with
      ⟨digits, length, names⟩
    rcases readQuotedName_hexadecimal? quotation lows with
      ⟨others, _, tail⟩
    refine ⟨digits ++ 'u' :: others, ?_, ?_⟩
    · rw [List.length_append, List.length_cons]
      omega
    · rw [names, readQuotedName_escaped, tail]
      cases readQuotedName quote behind with
      | none => rfl
      | some read => simp [unescape]

end Location

namespace Path

/-! ## Quoted names -/

/--
A singular path reads one or more letters where a query reads a character, and
that character alone exactly when the spelling is plain.
-/
theorem exists_letters_of_spells
    {quote character : Char} {rest characters : List Char}
    (spells : Query.Spells quote character rest characters)
    (quotation : quote = '\'' ∨ quote = '"') :
    ∃ letters : List Char,
      0 < letters.length ∧
        Location.readQuotedName quote characters =
          (Location.readQuotedName quote rest).map (fun read =>
            (letters ++ read.1, read.2)) ∧
        isPlainFrom (some quote) characters =
          (decide (letters = [character]) && isPlainFrom (some quote) rest) := by
  cases spells with
  | units digits read =>
      rcases Location.readQuotedName_of_readUnits quotation read with
        ⟨letters, positive, names⟩
      refine ⟨'u' :: letters, Nat.succ_pos _, ?_, ?_⟩
      · rw [Location.readQuotedName_escaped, names]
        cases Location.readQuotedName quote rest with
        | none => rfl
        | some read => simp [Location.unescape]
      · have several : letters ≠ [] := List.ne_nil_of_length_pos positive
        simp [isPlainFrom_escaped, queryLetters, several]
  | mark letter notUnits stands =>
      refine ⟨[Location.unescape letter], Nat.one_pos, ?_, ?_⟩
      · rw [Location.readQuotedName_escaped]
        rfl
      · have known := unescape_eq_iff quotation stands notUnits
        rw [isPlainFrom_escaped, Bool.eq_iff_iff]
        simp [known]
  | itself notBackslash inside =>
      refine ⟨[character], Nat.one_pos, ?_, ?_⟩
      · rw [Location.readQuotedName_cons notBackslash, if_neg inside]
        rfl
      · rw [isPlainFrom_quoted notBackslash, if_neg inside]
        simp

/-- Letters that are at least as many as what they stand for are equal to it piece by piece. -/
theorem append_eq_cons_iff_of_length_le
    {letters content tail : List Char}
    (positive : 0 < letters.length)
    (longer : tail.length ≤ content.length)
    (character : Char) :
    letters ++ content = character :: tail ↔
      letters = [character] ∧ content = tail := by
  constructor
  · intro equal
    have lengths := congrArg List.length equal
    rw [List.length_append, List.length_cons] at lengths
    have single : letters.length = 1 := by omega
    rcases List.length_eq_one_iff.mp single with ⟨letter, rfl⟩
    rcases List.cons.inj equal with ⟨rfl, rfl⟩
    exact ⟨rfl, rfl⟩
  · rintro ⟨rfl, rfl⟩
    rfl

/--
A quoted name that a query reads ends at the same mark in a singular path.
There it has at least as many characters, and the same ones exactly when it
holds no escape that only queries know.
-/
theorem readQuotedName_of_readQuoted
    {quote : Char}
    (quotation : quote = '\'' ∨ quote = '"')
    {fuel : Nat} {characters name behind : List Char}
    (read : Query.readQuoted quote fuel characters = some (name, behind)) :
    ∃ content,
      Location.readQuotedName quote characters = some (content, behind) ∧
        name.length ≤ content.length ∧
        isPlainFrom (some quote) characters =
          (decide (content = name) && isPlainFrom none behind) := by
  induction fuel generalizing characters name with
  | zero => cases read
  | succ fuel ih =>
      rcases Query.readQuoted_cases read with
        ⟨rfl, rfl⟩ | ⟨character, tail, rest, rfl, spells, found⟩
      · have notBackslash : quote ≠ '\\' := by
          rcases quotation with rfl | rfl
          · decide
          · decide
        refine ⟨[], ?_, Nat.le_refl _, ?_⟩
        · rw [Location.readQuotedName_cons notBackslash, if_pos rfl]
        · rw [isPlainFrom_quoted notBackslash, if_pos rfl]
          rfl
      · rcases ih found with ⟨content, named, longer, plain⟩
        rcases exists_letters_of_spells spells quotation with
          ⟨letters, positive, names, plainness⟩
        refine ⟨letters ++ content, ?_, ?_, ?_⟩
        · rw [names, named]
          rfl
        · rw [List.length_append, List.length_cons]
          omega
        · have pieces :=
            append_eq_cons_iff_of_length_le positive longer character
          rw [plainness, plain, Bool.eq_iff_iff]
          simp [pieces, and_assoc]

end Path

end Stencil
