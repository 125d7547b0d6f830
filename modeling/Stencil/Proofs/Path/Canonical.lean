import Stencil.Proofs.Text.Quoting

/-!
# Canonical texts of locations

A canonical text is a dollar sign with the texts of the segments behind it,
and nothing separates them.  It still tells where each segment ends: a name
behind a dot is a run of identifier characters, a quoted name ends with its
quotation mark and an index is a run of digits.  Hence different locations
have different canonical texts.
-/

namespace Stencil

/-! ## Runs of characters -/

/-- Where no character of a run makes a difference, the run in front makes none. -/
theorem eq_dropWhile_of_cons
    {Result : Type} {holds : Char → Bool} {decides : List Char → Result}
    (skips :
      ∀ character rest,
        holds character = true → decides (character :: rest) = decides rest)
    (characters : List Char) :
    decides (characters.dropWhile holds) = decides characters := by
  induction characters with
  | nil => rfl
  | cons character rest ih =>
      rw [List.dropWhile_cons]
      split
      · next inside => rw [ih, skips character rest inside]
      · rfl

/-- Whether a run of characters of some kind ends where these characters begin. -/
def EndsRun (holds : Char → Bool) (rest : List Char) : Prop :=
  ∀ first ∈ rest.head?, holds first = false

theorem takeWhile_run
    {holds : Char → Bool}
    {run rest : List Char}
    (inside : ∀ character ∈ run, holds character = true)
    (ends : EndsRun holds rest) :
    (run ++ rest).takeWhile holds = run := by
  rw [List.takeWhile_append_of_pos inside]
  cases rest with
  | nil => simp
  | cons first rest =>
      have stop : holds first = false := ends first rfl
      simp [stop]

theorem dropWhile_run
    {holds : Char → Bool}
    {run rest : List Char}
    (inside : ∀ character ∈ run, holds character = true)
    (ends : EndsRun holds rest) :
    (run ++ rest).dropWhile holds = rest := by
  rw [List.dropWhile_append_of_pos inside]
  cases rest with
  | nil => rfl
  | cons first rest =>
      have stop : holds first = false := ends first rfl
      simp [stop]

/-- Characters are told apart by what holds of one of them only. -/
theorem ne_of_holds
    {holds : Char → Bool} {character other : Char}
    (inside : holds character = true)
    (outside : holds other = false) :
    character ≠ other := by
  rintro rfl
  rw [outside] at inside
  cases inside

theorem decimal_inside (position : Nat) :
    ∀ character ∈ Numeral.decimal position,
      Numeral.isDigit character = true :=
  fun _ member => Numeral.isDigit_of_mem_decimal member

/-- The digits of an index start with a digit. -/
theorem exists_decimal_eq_cons (position : Nat) :
    ∃ first behind, Numeral.decimal position = first :: behind ∧
      Numeral.isDigit first = true := by
  cases digits : Numeral.decimal position with
  | nil => exact absurd digits (Numeral.decimal_ne_nil position)
  | cons first behind =>
      have inside := decimal_inside position
      rw [digits] at inside
      exact ⟨first, behind, rfl, inside first List.mem_cons_self⟩

theorem endsRun_isDigit_bracket (rest : List Char) :
    EndsRun Numeral.isDigit (']' :: rest) := by
  simp [EndsRun, Numeral.isDigit]

/-! ## Identifiers -/

theorem isIdentifierPart_of_mem
    {name : List Char}
    (identifier : isIdentifier name = true)
    {character : Char}
    (member : character ∈ name) :
    isIdentifierPart character = true := by
  cases name with
  | nil => cases member
  | cons first rest =>
      simp only [isIdentifier, Bool.and_eq_true, List.all_eq_true] at identifier
      rcases List.mem_cons.mp member with rfl | later
      · simp [isIdentifierPart, identifier.1]
      · exact identifier.2 character later

theorem toNat_lt_of_isIdentifierPart
    {character : Char}
    (part : isIdentifierPart character = true) :
    character.toNat < 0x80 := by
  simp only [isIdentifierPart, isIdentifierStart, Numeral.isDigit,
    Bool.or_eq_true, Bool.and_eq_true, decide_eq_true_eq] at part
  rcases part with (((upper | lower) | rfl) | rfl) | digit
  · have bound : character.toNat ≤ 90 := upper.2
    omega
  · have bound : character.toNat ≤ 122 := lower.2
    omega
  · decide
  · decide
  · have bound : character.toNat ≤ 57 := digit.2
    omega

/-- What holds of the ASCII characters of identifiers holds of all their characters. -/
theorem forall_isIdentifierPart
    (holds : Char → Prop)
    (ascii : ∀ code < 0x80, isIdentifierPart (Char.ofNat code) = true →
      holds (Char.ofNat code))
    {character : Char}
    (part : isIdentifierPart character = true) :
    holds character := by
  rw [← Char.ofNat_toNat character] at part ⊢
  apply ascii character.toNat _ part
  apply toNat_lt_of_isIdentifierPart
  rwa [Char.ofNat_toNat] at part

/-! ## The text of a segment -/

/-- Whether characters can stand behind a segment: none, or those of further segments. -/
def FollowsSegment (rest : List Char) : Prop :=
  ∀ first ∈ rest.head?, first = '.' ∨ first = '['

theorem FollowsSegment.endsRun
    {rest : List Char}
    (follows : FollowsSegment rest)
    {holds : Char → Bool}
    (dot : holds '.' = false)
    (bracket : holds '[' = false) :
    EndsRun holds rest := by
  intro first member
  rcases follows first member with rfl | rfl
  · exact dot
  · exact bracket

theorem FollowsSegment.flatMap
    {Item : Type} {spell : Item → List Char}
    (follows : ∀ item rest, FollowsSegment (spell item ++ rest))
    (items : List Item) :
    FollowsSegment (items.flatMap spell) := by
  cases items with
  | nil => simp [FollowsSegment]
  | cons item items => exact follows item _

namespace Segment

theorem chars_dotted
    {name : String}
    (identifier : isIdentifier name.toList = true) :
    chars (.member name) = '.' :: name.toList := by
  simp [chars, identifier]

theorem chars_quoted
    {name : String}
    (other : isIdentifier name.toList = false) :
    chars (.member name) = '[' :: (Value.quoted name.toList ++ [']']) := by
  simp [chars, other]

theorem chars_ne_nil (segment : Segment) : segment.chars ≠ [] := by
  cases segment with
  | member name =>
      cases identifier : isIdentifier name.toList with
      | true => simp [chars_dotted identifier]
      | false => simp [chars_quoted identifier]
  | index position => simp [chars]

theorem followsSegment_chars (segment : Segment) (rest : List Char) :
    FollowsSegment (segment.chars ++ rest) := by
  intro first member
  cases segment with
  | member name =>
      cases identifier : isIdentifier name.toList with
      | true =>
          left
          simpa [chars_dotted identifier, eq_comm] using member
      | false =>
          right
          simpa [chars_quoted identifier, eq_comm] using member
  | index position =>
      right
      simpa [chars, eq_comm] using member

/-- The segment whose canonical text stands in front, and what follows it. -/
def scan? : List Char → Option (Segment × List Char)
  | '.' :: rest =>
    some (.member (String.ofList (rest.takeWhile isIdentifierPart)),
      rest.dropWhile isIdentifierPart)
  | '[' :: rest =>
    match Query.readText rest with
    | some (name, behind) => some (.member name, behind.tail)
    | none =>
      (Numeral.natural? 10 (rest.takeWhile Numeral.isDigit)).map fun position =>
        (.index position, (rest.dropWhile Numeral.isDigit).tail)
  | _ => none

theorem readText_decimal (position : Nat) (rest : List Char) :
    Query.readText (Numeral.decimal position ++ rest) = none := by
  rcases exists_decimal_eq_cons position with ⟨first, behind, digits, digit⟩
  have notQuote : ¬(first = '\'' ∨ first = '"') :=
    not_or.mpr
      ⟨ne_of_holds digit (by decide), ne_of_holds digit (by decide)⟩
  simp [digits, Query.readText, notQuote]

/-- Scanning undoes writing, whatever further segments follow. -/
theorem scan?_chars
    (segment : Segment)
    {rest : List Char}
    (follows : FollowsSegment rest) :
    scan? (segment.chars ++ rest) = some (segment, rest) := by
  cases segment with
  | member name =>
      cases identifier : isIdentifier name.toList with
      | true =>
          have inside :
              ∀ character ∈ name.toList, isIdentifierPart character = true :=
            fun _ => isIdentifierPart_of_mem identifier
          have ends : EndsRun isIdentifierPart rest :=
            follows.endsRun (by decide) (by decide)
          rw [chars_dotted identifier, List.cons_append, scan?,
            takeWhile_run inside ends, dropWhile_run inside ends,
            String.ofList_toList]
      | false =>
          rw [chars_quoted identifier, List.cons_append, List.append_assoc,
            scan?, Query.readText_quoted, String.ofList_toList]
          rfl
  | index position =>
      have inside := decimal_inside position
      have ends := endsRun_isDigit_bracket rest
      rw [chars, List.cons_append, List.append_assoc, List.singleton_append,
        scan?, readText_decimal, takeWhile_run inside ends,
        dropWhile_run inside ends, Numeral.natural?_decimal]
      rfl

/-- Segments are told apart by their characters, whatever further segments follow. -/
theorem chars_inj
    {segment other : Segment} {rest behind : List Char}
    (follows : FollowsSegment rest)
    (otherFollows : FollowsSegment behind)
    (equal : segment.chars ++ rest = other.chars ++ behind) :
    segment = other ∧ rest = behind := by
  have scanned := segment.scan?_chars follows
  rw [equal, other.scan?_chars otherFollows] at scanned
  rcases Prod.mk.inj (Option.some.inj scanned) with ⟨rfl, rfl⟩
  exact ⟨rfl, rfl⟩

end Segment

/-! ## The text of a location -/

namespace Location

theorem followsSegment_flatMap (location : Location) :
    FollowsSegment (location.flatMap Segment.chars) :=
  .flatMap Segment.followsSegment_chars location

theorem length_le_flatMap_chars (location : Location) :
    location.length ≤ (location.flatMap Segment.chars).length :=
  length_le_flatMap Segment.chars_ne_nil location

theorem flatMap_chars_injective :
    Function.Injective fun location : Location =>
      location.flatMap Segment.chars := by
  apply flatMap_injective_of_delimited Segment.chars_ne_nil
  intro segment other left right equal
  exact Segment.chars_inj (followsSegment_flatMap left)
    (followsSegment_flatMap right) equal

/-- Different locations have different canonical texts. -/
theorem text_inj {left right : Location} :
    left.text = right.text ↔ left = right := by
  constructor
  · intro equal
    have characters := congrArg String.toList equal
    rw [text, text, String.toList_ofList, String.toList_ofList, chars, chars]
      at characters
    exact flatMap_chars_injective (List.cons.inj characters).2
  · exact congrArg text

end Location

end Stencil
