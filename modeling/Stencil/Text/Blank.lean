/-!
# Blank characters

A character is blank when Unicode gives it the property `White_Space`.  Paths,
operator tokens and function arguments are all trimmed of exactly these
characters, so the one table below decides every trimming rule of the library.
-/

namespace Stencil.Text

/-- The code point ranges, ends included, of the property `White_Space`. -/
def blankRanges : List (Nat × Nat) :=
  [(0x9, 0xD), (0x20, 0x20), (0x85, 0x85), (0xA0, 0xA0), (0x1680, 0x1680),
    (0x2000, 0x200A), (0x2028, 0x2029), (0x202F, 0x202F), (0x205F, 0x205F),
    (0x3000, 0x3000)]

/-- Whether a character is blank. -/
def isBlank (character : Char) : Bool :=
  blankRanges.any fun range =>
    range.1 ≤ character.toNat && character.toNat ≤ range.2

/-- The characters without the blanks in front of them. -/
def trimStart (characters : List Char) : List Char :=
  characters.dropWhile isBlank

/-- The characters without the blanks behind them. -/
def trimEnd (characters : List Char) : List Char :=
  (characters.reverse.dropWhile isBlank).reverse

/-- The characters without the blanks around them. -/
def trim (characters : List Char) : List Char :=
  trimEnd (trimStart characters)

/-- A text without the blanks around it. -/
def trimmed (text : String) : String :=
  String.ofList (trim text.toList)

@[simp]
theorem trim_nil : trim [] = [] :=
  rfl

/-- A text that neither starts nor ends with a blank is its own trimming. -/
theorem trim_eq_self
    {characters : List Char}
    (firstInk : ∀ first ∈ characters.head?, isBlank first = false)
    (lastInk : ∀ last ∈ characters.getLast?, isBlank last = false) :
    trim characters = characters := by
  have start : trimStart characters = characters := by
    cases characters with
    | nil => rfl
    | cons first rest =>
      have ink : isBlank first = false := firstInk first (by simp)
      simp [trimStart, ink]
  rw [trim, start, trimEnd]
  cases reversed : characters.reverse with
  | nil => simpa using reversed.symm
  | cons last rest =>
    have shape : characters = rest.reverse ++ [last] := by
      have := congrArg List.reverse reversed
      simpa using this
    have ink : isBlank last = false := lastInk last (by simp [shape])
    simp [ink, shape]

end Stencil.Text
