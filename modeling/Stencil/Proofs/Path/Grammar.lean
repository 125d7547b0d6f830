import Stencil.Proofs.Path.Rereading
import Stencil.Proofs.Text.Counts
import Stencil.Proofs.Text.Pieces

/-!
# The grammar of singular paths

A singular path is a dollar sign with segments behind it.  A segment is spelled
as a run of characters behind a dot, or in brackets as a quoted name or a run of
digits with blanks around it.  A derivation lists the spellings of the segments
with everything that was written.  The reader takes exactly the texts that have
a derivation, it finds the segments spelled, and no text has two derivations.
-/

namespace Stencil

/-! ## Spellings -/

/-- A run of blanks, which may be empty. -/
abbrev Blanks :=
  { blanks : List Char // ∀ blank ∈ blanks, Text.isBlank blank = true }

/-- The characters that cannot stand in a name behind a dot. -/
def pathMarks : List Char :=
  ['.', '[', ']', '*', '\'', '"']

/-- How one character of a quoted name is spelled. -/
inductive Letter (quote : Char) where
  | plain (character : Char) (inside : character ≠ quote)
      (notBackslash : character ≠ '\\')
  | escaped (character : Char)

namespace Letter

/-- The characters that spell a letter. -/
def chars {quote : Char} : Letter quote → List Char
  | .plain character _ _ => [character]
  | .escaped character => ['\\', character]

/-- The character spelled; behind a backslash three letters stand for controls. -/
def character {quote : Char} : Letter quote → Char
  | .plain character _ _ => character
  | .escaped character =>
    if character = 'n' then '\n'
    else if character = 't' then '\t'
    else if character = 'r' then '\r'
    else character

end Letter

/-- What stands in brackets: a name between equal quotation marks, or an index. -/
inductive Bracketed where
  | name (quote : Char) (quotation : quote = '\'' ∨ quote = '"')
      (letters : List (Letter quote))
  | index (digits : List Char) (nonempty : digits ≠ [])
      (numeric : ∀ digit ∈ digits, Numeral.isDigit digit = true)
      (fits : Nat.ofDigitChars 10 digits 0 < Numeral.countLimit)

namespace Bracketed

/-- The characters between the brackets, without the blanks around them. -/
def chars : Bracketed → List Char
  | .name quote _ letters =>
    quote :: (letters.flatMap Letter.chars ++ [quote])
  | .index digits _ _ _ => digits

/-- The segment spelled between the brackets. -/
def segment : Bracketed → Segment
  | .name _ _ letters =>
    .member (String.ofList (letters.map Letter.character))
  | .index digits _ _ _ => .index (Nat.ofDigitChars 10 digits 0)

end Bracketed

/-- How one segment of a singular path is spelled. -/
inductive Spelling where
  | dotted (run : List Char)
      (unmarked : ∀ character ∈ run, character ∉ pathMarks)
      (named : ∃ character ∈ run, Text.isBlank character = false)
  | bracketed (before : Blanks) (inside : Bracketed) (behind : Blanks)

namespace Spelling

/-- The characters of a spelling. -/
def chars : Spelling → List Char
  | .dotted run _ _ => '.' :: run
  | .bracketed before inside behind =>
    '[' :: (before.val ++ (inside.chars ++ (behind.val ++ [']'])))

/-- The segment spelled. -/
def segment : Spelling → Segment
  | .dotted run _ _ => .member (String.ofList (Text.trim run))
  | .bracketed _ inside _ => inside.segment

end Spelling

/-- The spellings of the segments of a singular path, in order. -/
abbrev Derivation := List Spelling

namespace Derivation

/-- The text derived. -/
def chars (derivation : Derivation) : List Char :=
  '$' :: derivation.flatMap Spelling.chars

/-- The location derived. -/
def location (derivation : Derivation) : Location :=
  derivation.map Spelling.segment

end Derivation

/-! ## Runs -/

/-- Where two runs of one kind of characters end, equal texts fall into equal parts. -/
theorem run_inj
    {holds : Char → Bool}
    {run other rest behind : List Char}
    (inside : ∀ character ∈ run, holds character = true)
    (otherInside : ∀ character ∈ other, holds character = true)
    (ends : EndsRun holds rest)
    (otherEnds : EndsRun holds behind)
    (equal : run ++ rest = other ++ behind) :
    run = other ∧ rest = behind := by
  constructor
  · rw [← takeWhile_run inside ends, equal,
      takeWhile_run otherInside otherEnds]
  · rw [← dropWhile_run inside ends, equal,
      dropWhile_run otherInside otherEnds]

theorem isNameCharacter_iff (character : Char) :
    Location.isNameCharacter character = true ↔ character ∉ pathMarks := by
  rw [Location.isNameCharacter, Bool.not_eq_true', ← Bool.not_eq_true,
    List.contains_iff_mem, pathMarks]

namespace Blanks

theorem trimStart_append
    (blanks : Blanks)
    {rest : List Char}
    (ends : EndsRun Text.isBlank rest) :
    Text.trimStart (blanks.val ++ rest) = rest :=
  dropWhile_run blanks.property ends

/-- The blanks that trimming takes away from the front. -/
def leading (characters : List Char) : Blanks :=
  ⟨characters.takeWhile Text.isBlank,
    fun _ member => List.mem_takeWhile_imp member⟩

theorem leading_append_trimStart (characters : List Char) :
    (leading characters).val ++ Text.trimStart characters = characters :=
  List.takeWhile_append_dropWhile

theorem endsRun_bracket (rest : List Char) :
    EndsRun Text.isBlank (']' :: rest) := by
  intro first member
  rcases Option.some.inj member with rfl
  decide

/-- Digits end where blanks or the closing bracket begin. -/
theorem endsRun_isDigit (blanks : Blanks) (rest : List Char) :
    EndsRun Numeral.isDigit (blanks.val ++ ']' :: rest) := by
  rcases blanks with ⟨characters, blank⟩
  cases characters with
  | nil => exact endsRun_isDigit_bracket rest
  | cons first characters =>
      intro other member
      rcases Option.some.inj member with rfl
      exact isDigit_of_isBlank (blank first List.mem_cons_self)

end Blanks

/-! ## Letters -/

namespace Letter

variable {quote : Char}

theorem character_escaped (letter : Char) :
    (Letter.escaped letter : Letter quote).character =
      Location.unescape letter := by
  rw [character]
  by_cases newline : letter = 'n'
  · rw [if_pos newline, newline]
    rfl
  · rw [if_neg newline]
    by_cases tab : letter = 't'
    · rw [if_pos tab, tab]
      rfl
    · rw [if_neg tab]
      by_cases carriage : letter = 'r'
      · rw [if_pos carriage, carriage]
        rfl
      · rw [if_neg carriage, Location.unescape]
        · exact newline
        · exact tab
        · exact carriage

/-- The reader takes letters up to the quotation mark behind them. -/
theorem readQuotedName_letters
    (notBackslash : quote ≠ '\\')
    (letters : List (Letter quote)) (rest : List Char) :
    Location.readQuotedName quote
        (letters.flatMap chars ++ quote :: rest) =
      some (letters.map character, rest) := by
  induction letters with
  | nil =>
      rw [List.flatMap_nil, List.nil_append,
        Location.readQuotedName_cons notBackslash, if_pos rfl]
      rfl
  | cons letter letters ih =>
      rw [List.flatMap_cons, List.append_assoc]
      cases letter with
      | plain first inside plainFirst =>
          rw [chars, List.singleton_append,
            Location.readQuotedName_cons plainFirst, if_neg inside, ih]
          rfl
      | escaped first =>
          rw [chars, List.cons_append, List.singleton_append,
            Location.readQuotedName_escaped, ih, List.map_cons,
            character_escaped]
          rfl

/-- What the reader takes for a quoted name is spelled by letters. -/
theorem exists_letters_of_readQuotedName
    {characters name behind : List Char}
    (read :
      Location.readQuotedName quote characters = some (name, behind)) :
    ∃ letters : List (Letter quote),
      characters = letters.flatMap chars ++ quote :: behind ∧
        name = letters.map character := by
  fun_induction Location.readQuotedName quote characters
      generalizing name with
  | case1 => cases read
  | case2 => cases read
  | case3 first rest ih =>
      rcases Option.map_eq_some_iff.mp read with ⟨⟨tail, _⟩, found, equal⟩
      rcases Prod.mk.inj equal with ⟨rfl, rfl⟩
      rcases ih found with ⟨letters, rfl, rfl⟩
      refine ⟨.escaped first :: letters, rfl, ?_⟩
      rw [List.map_cons, character_escaped]
  | case4 rest =>
      rcases Prod.mk.inj (Option.some.inj read) with ⟨rfl, rfl⟩
      exact ⟨[], rfl, rfl⟩
  | case5 first rest notLast notEscape inside ih =>
      have notBackslash : first ≠ '\\' := by
        rintro rfl
        cases rest with
        | nil => exact notLast rfl rfl
        | cons next rest => exact notEscape next rest rfl rfl
      rcases Option.map_eq_some_iff.mp read with ⟨⟨tail, _⟩, found, equal⟩
      rcases Prod.mk.inj equal with ⟨rfl, rfl⟩
      rcases ih found with ⟨letters, rfl, rfl⟩
      exact ⟨.plain first inside notBackslash :: letters, rfl, rfl⟩

/-- Letters in front of the quotation mark are told apart by their characters. -/
theorem letters_inj
    (notBackslash : quote ≠ '\\')
    {letters others : List (Letter quote)} {rest behind : List Char}
    (equal :
      letters.flatMap chars ++ quote :: rest =
        others.flatMap chars ++ quote :: behind) :
    letters = others ∧ rest = behind := by
  induction letters generalizing others with
  | nil =>
      cases others with
      | nil => exact ⟨rfl, (List.cons.inj equal).2⟩
      | cons other others =>
          cases other with
          | plain first inside _ =>
              exact absurd (List.cons.inj equal).1.symm inside
          | escaped first =>
              exact absurd (List.cons.inj equal).1 notBackslash
  | cons letter letters ih =>
      cases others with
      | nil =>
          cases letter with
          | plain first inside _ =>
              exact absurd (List.cons.inj equal).1 inside
          | escaped first =>
              exact absurd (List.cons.inj equal).1.symm notBackslash
      | cons other others =>
          rw [List.flatMap_cons, List.flatMap_cons, List.append_assoc,
            List.append_assoc] at equal
          cases letter with
          | plain first _ plainFirst =>
              cases other with
              | plain second _ _ =>
                  rcases List.cons.inj equal with ⟨rfl, tails⟩
                  rcases ih tails with ⟨rfl, rfl⟩
                  exact ⟨rfl, rfl⟩
              | escaped second =>
                  exact absurd (List.cons.inj equal).1 plainFirst
          | escaped first =>
              cases other with
              | plain second _ plainSecond =>
                  exact absurd (List.cons.inj equal).1.symm plainSecond
              | escaped second =>
                  rcases List.cons.inj (List.cons.inj equal).2 with
                    ⟨rfl, tails⟩
                  rcases ih tails with ⟨rfl, rfl⟩
                  exact ⟨rfl, rfl⟩

end Letter

/-! ## Brackets -/

namespace Bracketed

theorem ne_backslash_of_quotation
    {quote : Char}
    (quotation : quote = '\'' ∨ quote = '"') :
    quote ≠ '\\' := by
  rcases quotation with rfl | rfl
  · decide
  · decide

/-- What stands in brackets begins with a quotation mark or a digit. -/
theorem exists_head (inside : Bracketed) :
    ∃ first rest, inside.chars = first :: rest ∧
      ((first = '\'' ∨ first = '"') ∨ Numeral.isDigit first = true) := by
  cases inside with
  | name quote quotation letters => exact ⟨quote, _, rfl, Or.inl quotation⟩
  | index digits nonempty numeric fits =>
      cases digits with
      | nil => exact absurd rfl nonempty
      | cons first rest =>
          exact ⟨first, rest, rfl, Or.inr (numeric first List.mem_cons_self)⟩

theorem endsRun_isBlank (inside : Bracketed) (rest : List Char) :
    EndsRun Text.isBlank (inside.chars ++ rest) := by
  rcases inside.exists_head with ⟨first, behind, shape, front⟩
  intro other member
  rw [shape] at member
  rcases Option.some.inj member with rfl
  rcases front with (rfl | rfl) | digit
  · decide
  · decide
  · exact isBlank_of_isIdentifierPart (by simp [isIdentifierPart, digit])

theorem readIndex_digits
    {digits : List Char}
    (nonempty : digits ≠ [])
    (numeric : ∀ digit ∈ digits, Numeral.isDigit digit = true)
    (fits : Nat.ofDigitChars 10 digits 0 < Numeral.countLimit)
    {rest : List Char}
    (ends : EndsRun Numeral.isDigit rest) :
    Location.readIndex (digits ++ rest) =
      some (.index (Nat.ofDigitChars 10 digits 0), rest) := by
  have bounded :
      decide (Nat.ofDigitChars 10 digits 0 < Numeral.countLimit) = true :=
    decide_eq_true fits
  rw [Location.readIndex, takeWhile_run numeric ends,
    dropWhile_run numeric ends, Numeral.natural?_digits nonempty numeric,
    Option.filter_some, if_pos bounded]
  rfl

/-- The reader takes what stands in brackets, up to a character that is no digit. -/
theorem readSelector_chars
    (inside : Bracketed)
    {rest : List Char}
    (ends : EndsRun Numeral.isDigit rest) :
    Location.readSelector (inside.chars ++ rest) =
      some (inside.segment, rest) := by
  cases inside with
  | name quote quotation letters =>
      have notBackslash := ne_backslash_of_quotation quotation
      rw [chars, List.cons_append, List.append_assoc, List.singleton_append,
        Location.readSelector_quotation quotation,
        Letter.readQuotedName_letters notBackslash]
      rfl
  | index digits nonempty numeric fits =>
      have read := readIndex_digits nonempty numeric fits ends
      cases digits with
      | nil => exact absurd rfl nonempty
      | cons first digits =>
          have digit := numeric first List.mem_cons_self
          rw [chars, List.cons_append, Location.readSelector_digit digit,
            ← List.cons_append, read]
          rfl

theorem exists_digits_of_readIndex
    {characters behind : List Char} {segment : Segment}
    (read : Location.readIndex characters = some (segment, behind)) :
    ∃ inside : Bracketed,
      characters = inside.chars ++ behind ∧ segment = inside.segment := by
  rcases Option.map_eq_some_iff.mp read with ⟨position, found, equal⟩
  rcases Prod.mk.inj equal with ⟨rfl, rfl⟩
  rcases Numeral.natural?_filter_eq_some_iff.mp found with
    ⟨nonempty, numeric, rfl, fits⟩
  exact
    ⟨.index _ nonempty numeric fits, List.takeWhile_append_dropWhile.symm, rfl⟩

/-- What the reader takes between brackets is spelled by letters or digits. -/
theorem exists_bracketed_of_readSelector
    {characters behind : List Char} {segment : Segment}
    (read : Location.readSelector characters = some (segment, behind)) :
    ∃ inside : Bracketed,
      characters = inside.chars ++ behind ∧ segment = inside.segment := by
  rcases Location.readSelector_cases read with
    ⟨quote, rest, content, quotation, rfl, named, rfl⟩ |
      ⟨_, _, _, _, indexed⟩
  · rcases Letter.exists_letters_of_readQuotedName named with
      ⟨letters, rfl, rfl⟩
    refine ⟨.name quote quotation letters, ?_, rfl⟩
    rw [chars, List.cons_append, List.append_assoc, List.singleton_append]
  · exact exists_digits_of_readIndex indexed

/-- A quotation mark does not begin a run of digits. -/
theorem quotation_cons_ne
    {quote : Char}
    (quotation : quote = '\'' ∨ quote = '"')
    {digits : List Char}
    (nonempty : digits ≠ [])
    (numeric : ∀ digit ∈ digits, Numeral.isDigit digit = true)
    (text rest : List Char) :
    quote :: text ≠ digits ++ rest := by
  intro equal
  cases digits with
  | nil => exact nonempty rfl
  | cons first digits =>
      have digit := numeric first List.mem_cons_self
      rw [← (List.cons.inj equal).1] at digit
      rcases quotation with rfl | rfl
      · cases digit
      · cases digit

/-- What stands in brackets is told apart by its characters, where digits end behind it. -/
theorem chars_inj
    {inside other : Bracketed} {rest behind : List Char}
    (ends : EndsRun Numeral.isDigit rest)
    (otherEnds : EndsRun Numeral.isDigit behind)
    (equal : inside.chars ++ rest = other.chars ++ behind) :
    inside = other ∧ rest = behind := by
  cases inside with
  | name quote quotation letters =>
      cases other with
      | name otherQuote otherQuotation others =>
          rw [chars, chars, List.cons_append, List.cons_append,
            List.append_assoc, List.append_assoc, List.singleton_append,
            List.singleton_append] at equal
          rcases List.cons.inj equal with ⟨rfl, tails⟩
          rcases Letter.letters_inj (ne_backslash_of_quotation quotation)
              tails with ⟨rfl, rfl⟩
          exact ⟨rfl, rfl⟩
      | index digits nonempty numeric fits =>
          exact absurd equal (quotation_cons_ne quotation nonempty numeric _ _)
  | index digits nonempty numeric fits =>
      cases other with
      | name otherQuote otherQuotation others =>
          exact absurd equal.symm
            (quotation_cons_ne otherQuotation nonempty numeric _ _)
      | index others otherNonempty otherNumeric otherFits =>
          rcases run_inj numeric otherNumeric ends otherEnds equal with
            ⟨rfl, rfl⟩
          exact ⟨rfl, rfl⟩

end Bracketed

/-! ## Segments -/

namespace Spelling

theorem chars_ne_nil (spelling : Spelling) : spelling.chars ≠ [] := by
  cases spelling with
  | dotted run unmarked named => exact List.cons_ne_nil _ _
  | bracketed before inside behind => exact List.cons_ne_nil _ _

theorem followsSegment_chars (spelling : Spelling) (rest : List Char) :
    FollowsSegment (spelling.chars ++ rest) := by
  intro first member
  cases spelling with
  | dotted run unmarked named => exact Or.inl (Option.some.inj member).symm
  | bracketed before inside behind =>
      exact Or.inr (Option.some.inj member).symm

theorem chars_bracketed_append
    (before : Blanks) (inside : Bracketed) (behind : Blanks)
    (rest : List Char) :
    (bracketed before inside behind).chars ++ rest =
      '[' ::
        (before.val ++ (inside.chars ++ (behind.val ++ ']' :: rest))) := by
  simp [chars]

theorem readDotted_run
    {run rest : List Char}
    (unmarked : ∀ character ∈ run, character ∉ pathMarks)
    (named : ∃ character ∈ run, Text.isBlank character = false)
    (follows : FollowsSegment rest) :
    Location.readDotted (run ++ rest) =
      some (.member (String.ofList (Text.trim run)), rest) := by
  have inside :
      ∀ character ∈ run, Location.isNameCharacter character = true :=
    fun character member =>
      (isNameCharacter_iff character).mpr (unmarked character member)
  have ends : EndsRun Location.isNameCharacter rest :=
    follows.endsRun (by decide) (by decide)
  have nonempty : (Text.trim run).isEmpty = false := by
    rw [List.isEmpty_eq_false_iff, ne_eq, Text.trim_eq_nil_iff]
    rcases named with ⟨character, member, ink⟩
    intro blank
    rw [blank character member] at ink
    cases ink
  rw [Location.readDotted, takeWhile_run inside ends,
    dropWhile_run inside ends, nonempty]
  rfl

/-- The reader takes a spelling, whatever further segments follow. -/
theorem readSegment_chars
    (spelling : Spelling)
    {rest : List Char}
    (follows : FollowsSegment rest) :
    Location.readSegment (spelling.chars ++ rest) =
      some (spelling.segment, rest) := by
  cases spelling with
  | dotted run unmarked named => exact readDotted_run unmarked named follows
  | bracketed before inside behind =>
      have opened := before.trimStart_append (inside.endsRun_isBlank
        (behind.val ++ ']' :: rest))
      have selected :=
        inside.readSelector_chars (behind.endsRun_isDigit rest)
      have closed := behind.trimStart_append (Blanks.endsRun_bracket rest)
      rw [chars_bracketed_append, Location.readSegment,
        Location.readBracketed, opened, selected]
      simp only [closed]
      rfl

/-- What the reader takes for a segment is a spelling of it. -/
theorem exists_spelling_of_readSegment
    {characters rest : List Char} {segment : Segment}
    (read : Location.readSegment characters = some (segment, rest)) :
    ∃ spelling : Spelling,
      characters = spelling.chars ++ rest ∧ segment = spelling.segment := by
  rw [Location.readSegment.eq_def] at read
  split at read
  · next characters =>
      rcases Location.readDotted_eq_some read with ⟨nonempty, rfl, rfl⟩
      have unmarked :
          ∀ character ∈ characters.takeWhile Location.isNameCharacter,
            character ∉ pathMarks :=
        fun character member =>
          (isNameCharacter_iff character).mp (List.mem_takeWhile_imp member)
      have named :
          ∃ character ∈ characters.takeWhile Location.isNameCharacter,
            Text.isBlank character = false := by
        rw [ne_eq, Text.trim_eq_nil_iff] at nonempty
        simpa using nonempty
      refine ⟨.dotted _ unmarked named, ?_, rfl⟩
      rw [chars, List.cons_append, List.takeWhile_append_dropWhile]
  · next characters =>
      rcases Location.readBracketed_eq_some read with
        ⟨left, selected, closed⟩
      rcases Bracketed.exists_bracketed_of_readSelector selected with
        ⟨inside, shape, rfl⟩
      refine ⟨.bracketed (.leading characters) inside (.leading left), ?_, rfl⟩
      rw [chars_bracketed_append, ← closed, Blanks.leading_append_trimStart,
        ← shape, Blanks.leading_append_trimStart]
  · cases read

/-- Spellings are told apart by their characters, whatever further segments follow. -/
theorem chars_inj
    {spelling other : Spelling} {rest behind : List Char}
    (follows : FollowsSegment rest)
    (otherFollows : FollowsSegment behind)
    (equal : spelling.chars ++ rest = other.chars ++ behind) :
    spelling = other ∧ rest = behind := by
  cases spelling with
  | dotted run unmarked named =>
      cases other with
      | dotted others otherUnmarked otherNamed =>
          rcases run_inj
              (fun character member =>
                (isNameCharacter_iff character).mpr
                  (unmarked character member))
              (fun character member =>
                (isNameCharacter_iff character).mpr
                  (otherUnmarked character member))
              (follows.endsRun (by decide) (by decide))
              (otherFollows.endsRun (by decide) (by decide))
              (List.cons.inj equal).2 with ⟨rfl, rfl⟩
          exact ⟨rfl, rfl⟩
      | bracketed otherBefore otherInside otherBehind =>
          exact absurd (List.cons.inj equal).1 (by decide)
  | bracketed before inside behindInside =>
      cases other with
      | dotted others otherUnmarked otherNamed =>
          exact absurd (List.cons.inj equal).1 (by decide)
      | bracketed otherBefore otherInside otherBehind =>
          -- Each part ends where the next begins, so they agree one by one.
          rw [chars_bracketed_append, chars_bracketed_append] at equal
          rcases run_inj before.property otherBefore.property
              (inside.endsRun_isBlank _) (otherInside.endsRun_isBlank _)
              (List.cons.inj equal).2 with ⟨blanks, selected⟩
          rcases Bracketed.chars_inj (behindInside.endsRun_isDigit rest)
              (otherBehind.endsRun_isDigit behind) selected with
            ⟨rfl, closed⟩
          rcases run_inj behindInside.property otherBehind.property
              (Blanks.endsRun_bracket rest) (Blanks.endsRun_bracket behind)
              closed with ⟨blanksBehind, tails⟩
          rw [Subtype.ext blanks, Subtype.ext blanksBehind,
            (List.cons.inj tails).2]
          exact ⟨rfl, rfl⟩

end Spelling

/-! ## Whole paths -/

namespace Derivation

theorem followsSegment_flatMap (derivation : Derivation) :
    FollowsSegment (derivation.flatMap Spelling.chars) :=
  .flatMap Spelling.followsSegment_chars derivation

theorem length_le_flatMap_chars (derivation : Derivation) :
    derivation.length ≤ (derivation.flatMap Spelling.chars).length :=
  length_le_flatMap Spelling.chars_ne_nil derivation

/-- The reader takes every derivation that its bound admits. -/
theorem readSegments_flatMap
    {derivation : Derivation} {bound : Nat}
    (enough : derivation.length ≤ bound) :
    Location.readSegments bound (derivation.flatMap Spelling.chars) =
      some derivation.location := by
  induction derivation generalizing bound with
  | nil =>
      rw [List.flatMap_nil, Location.readSegments]
      rfl
  | cons spelling derivation ih =>
      cases bound with
      | zero => cases enough
      | succ bound =>
          have tail := ih (Nat.le_of_succ_le_succ enough)
          have read :=
            spelling.readSegment_chars (followsSegment_flatMap derivation)
          rw [List.flatMap_cons, Location.readSegments, read]
          · simp only [tail]
            rfl
          · simp [spelling.chars_ne_nil]

/-- What the reader takes for segments has a derivation. -/
theorem exists_derivation_of_readSegments
    {bound : Nat} {characters : List Char} {location : Location}
    (read : Location.readSegments bound characters = some location) :
    ∃ derivation : Derivation,
      characters = derivation.flatMap Spelling.chars ∧
        location = derivation.location := by
  fun_induction Location.readSegments bound characters
      generalizing location with
  | case1 =>
      rcases Option.some.inj read with rfl
      exact ⟨[], rfl, rfl⟩
  | case2 => cases read
  | case3 => cases read
  | case4 bound characters _ segment rest found ih =>
      rcases Option.map_eq_some_iff.mp read with ⟨tail, onward, rfl⟩
      rcases Spelling.exists_spelling_of_readSegment found with
        ⟨spelling, rfl, rfl⟩
      rcases ih onward with ⟨derivation, rfl, rfl⟩
      exact ⟨spelling :: derivation, rfl, rfl⟩

theorem flatMap_chars_injective :
    Function.Injective fun derivation : Derivation =>
      derivation.flatMap Spelling.chars := by
  apply flatMap_injective_of_delimited Spelling.chars_ne_nil
  intro spelling other left right equal
  exact Spelling.chars_inj (followsSegment_flatMap left)
    (followsSegment_flatMap right) equal

end Derivation

/--
A text is read as a location exactly when it has a derivation that spells the
segments of that location.  It has at most one derivation.
-/
theorem Location.read?_eq_some_iff_derived (characters : List Char) :
    (∀ location,
      read? characters = some location ↔
        ∃ derivation : Derivation,
          derivation.chars = characters ∧
            derivation.location = location) ∧
    ∀ left right : Derivation,
      left.chars = characters → right.chars = characters → left = right := by
  constructor
  · intro location
    constructor
    · intro read
      rw [read?.eq_def] at read
      split at read
      · rcases Derivation.exists_derivation_of_readSegments read with
          ⟨derivation, rfl, rfl⟩
        exact ⟨derivation, rfl, rfl⟩
      · cases read
    · rintro ⟨derivation, rfl, rfl⟩
      exact Derivation.readSegments_flatMap derivation.length_le_flatMap_chars
  · rintro left right rfl same
    exact (Derivation.flatMap_chars_injective (List.cons.inj same).2).symm

end Stencil
