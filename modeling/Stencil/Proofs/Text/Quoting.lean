import Stencil.Path.Spelling
import Stencil.Query.Reader

/-!
# Reading quoted names back

A quoted text writes a character in one of three ways: behind a backslash, as
the digits of its code point, or as itself.  Queries read all three back.  The
singular paths know no code points and only some of the letters behind a
backslash, so that some controls come back as plain letters.  Both readers are
described here on whole quoted names, with any characters behind them.
-/

namespace Stencil

/-! ## Spellings one after the other -/

section Spellings

variable {Item Character : Type} {spell : Item → List Character}

/-- What is spelled by something is at least as long as the sequence of it. -/
theorem length_le_flatMap
    (nonempty : ∀ item, spell item ≠ []) (items : List Item) :
    items.length ≤ (items.flatMap spell).length := by
  induction items with
  | nil => simp
  | cons item items ih =>
      have positive := List.length_pos_iff.mpr (nonempty item)
      rw [List.flatMap_cons, List.length_append, List.length_cons]
      omega

/-- Where each spelling tells where it ends, a text spells one sequence at most. -/
theorem flatMap_injective_of_delimited
    (nonempty : ∀ item, spell item ≠ [])
    (delimited :
      ∀ {item other : Item} {items others : List Item},
        spell item ++ items.flatMap spell =
            spell other ++ others.flatMap spell →
          item = other ∧ items.flatMap spell = others.flatMap spell) :
    Function.Injective fun items : List Item => items.flatMap spell := by
  intro left right equal
  dsimp only at equal
  induction left generalizing right with
  | nil =>
      cases right with
      | nil => rfl
      | cons other right => simp [nonempty] at equal
  | cons item left ih =>
      cases right with
      | nil => simp [nonempty] at equal
      | cons other right =>
          rw [List.flatMap_cons, List.flatMap_cons] at equal
          rcases delimited equal with ⟨rfl, tails⟩
          rw [ih tails]

end Spellings

/-! ## Quoted names -/

/-- Whether a character is a control whose escape a singular path reads as plain letters. -/
def isMisread (character : Char) : Bool :=
  character.toNat < 0x20 && !(['\n', '\t', '\r'].contains character)

/-- What a singular path reads back for one quoted character. -/
def reread (character : Char) : List Char :=
  if isMisread character then (Value.escape character).tail else [character]

/-- The three ways in which a character is written in a quoted text. -/
inductive EscapeForm (character : Char) : Prop where
  | mark
      (letter : Char)
      (written : Value.escape character = ['\\', letter])
      (notUnits : letter ≠ 'u')
      (meaning : Value.simpleEscape? letter = some character)
      (reading : reread character = [Location.unescape letter])
  | units
      (control : character.toNat < 0x20)
      (written : Value.escape character =
        '\\' :: 'u' :: '0' :: '0' :: Value.hexPair character.toNat)
      (reading : reread character =
        'u' :: '0' :: '0' :: Value.hexPair character.toNat)
  | itself
      (printable : 0x20 ≤ character.toNat)
      (written : Value.escape character = [character])
      (notQuote : character ≠ '"')
      (notBackslash : character ≠ '\\')
      (reading : reread character = [character])

theorem escapeForm (character : Char) : EscapeForm character := by
  by_cases short : character ∈ ['"', '\\', '\n', '\t', '\r', '\x08', '\x0c']
  · simp only [List.mem_cons, List.not_mem_nil, or_false] at short
    rcases short with rfl | rfl | rfl | rfl | rfl | rfl | rfl
    · exact .mark '"' rfl (by decide) rfl rfl
    · exact .mark '\\' rfl (by decide) rfl rfl
    · exact .mark 'n' rfl (by decide) rfl rfl
    · exact .mark 't' rfl (by decide) rfl rfl
    · exact .mark 'r' rfl (by decide) rfl rfl
    · exact .mark 'b' rfl (by decide) rfl rfl
    · exact .mark 'f' rfl (by decide) rfl rfl
  · simp only [List.mem_cons, List.not_mem_nil, or_false, not_or] at short
    rcases short with
      ⟨notQuote, notBackslash, notFeed, notTab, notReturn, notBack, notForm⟩
    by_cases control : character.toNat < 0x20
    · refine .units control ?_ ?_
      · simp [Value.escape, *]
      · simp [reread, isMisread, Value.escape, *]
    · refine .itself (Nat.le_of_not_lt control) ?_ notQuote notBackslash ?_
      · simp [Value.escape, *]
      · simp [reread, isMisread, *]

theorem escape_ne_nil (character : Char) :
    Value.escape character ≠ [] := by
  cases escapeForm character with
  | mark letter written notUnits meaning reading => simp [written]
  | units control written reading => simp [written]
  | itself printable written notQuote notBackslash reading => simp [written]

/-- The digits of a control are neither a backslash nor a quotation mark. -/
theorem hexPair_plain
    {code : Nat}
    (control : code < 0x20)
    {digit : Char}
    (member : digit ∈ Value.hexPair code) :
    digit ≠ '\\' ∧ digit ≠ '"' := by
  have plain :
      ∀ code < 0x20, (Value.hexPair code).all
        (fun digit => digit ≠ '\\' ∧ digit ≠ '"') = true := by
    decide
  simpa using List.all_eq_true.mp (plain code control) digit member

theorem natural?_hexPair :
    ∀ code < 0x20,
      Numeral.natural? 16 ('0' :: '0' :: Value.hexPair code) =
        some code := by
  decide

/-! ## Singular paths -/

namespace Location

theorem readQuotedName_cons
    {character : Char}
    (notBackslash : character ≠ '\\')
    (quote : Char) (rest : List Char) :
    readQuotedName quote (character :: rest) =
      if character = quote then some ([], rest)
      else (readQuotedName quote rest).map fun read =>
        (character :: read.1, read.2) := by
  rw [readQuotedName]
  · intro backslash
    exact absurd backslash notBackslash
  · intro _ _ backslash
    exact absurd backslash notBackslash

theorem readQuotedName_escaped (quote letter : Char) (rest : List Char) :
    readQuotedName quote ('\\' :: letter :: rest) =
      (readQuotedName quote rest).map fun read =>
        (unescape letter :: read.1, read.2) := by
  rw [readQuotedName]

theorem readQuotedName_plain
    {quote : Char} {characters : List Char}
    (plain :
      ∀ character ∈ characters, character ≠ '\\' ∧ character ≠ quote)
    (rest : List Char) :
    readQuotedName quote (characters ++ rest) =
      (readQuotedName quote rest).map fun read =>
        (characters ++ read.1, read.2) := by
  induction characters with
  | nil => simp
  | cons character characters ih =>
      rcases plain character (by simp) with ⟨notBackslash, notQuote⟩
      have tail := ih fun other member => plain other (by simp [member])
      rw [List.cons_append, readQuotedName_cons notBackslash, if_neg notQuote,
        tail]
      simp [Function.comp_def]

theorem readQuotedName_escape
    (character : Char) (rest : List Char) :
    readQuotedName '"' (Value.escape character ++ rest) =
      (readQuotedName '"' rest).map fun read =>
        (reread character ++ read.1, read.2) := by
  cases escapeForm character with
  | mark letter written notUnits meaning reading =>
      simp [written, reading, readQuotedName]
  | units control written reading =>
      have plain :
          ∀ other ∈ '0' :: '0' :: Value.hexPair character.toNat,
            other ≠ '\\' ∧ other ≠ '"' := by
        simpa using fun other => hexPair_plain control
      have tail := readQuotedName_plain plain rest
      rw [written, reading]
      simp only [List.cons_append] at tail ⊢
      rw [readQuotedName, tail]
      simp [unescape, Function.comp_def]
  | itself printable written notQuote notBackslash reading =>
      rw [written, reading]
      exact readQuotedName_plain (by simp [*]) rest

/-- A quoted name is read back with its misread controls replaced by letters. -/
theorem readQuotedName_quoted (name rest : List Char) :
    readQuotedName '"' (name.flatMap Value.escape ++ '"' :: rest) =
      some (name.flatMap reread, rest) := by
  induction name with
  | nil => simp [readQuotedName]
  | cons character name ih =>
      simp [readQuotedName_escape, ih]

end Location

theorem reread_of_not_isMisread
    {character : Char}
    (read : isMisread character = false) :
    reread character = [character] := by
  simp [reread, read]

/-- No misread control comes back from reading. -/
theorem not_isMisread_of_mem_reread
    {character other : Char}
    (member : other ∈ reread character) :
    isMisread other = false := by
  have controls :
      ∀ code < 0x20, (reread (Char.ofNat code)).all
        (fun letter => !isMisread letter) = true := by
    decide
  by_cases misread : isMisread character = true
  · have control : character.toNat < 0x20 := by
      simp only [isMisread, Bool.and_eq_true, decide_eq_true_eq] at misread
      exact misread.1
    have letters := controls character.toNat control
    rw [Char.ofNat_toNat] at letters
    simpa using List.all_eq_true.mp letters other member
  · rw [Bool.not_eq_true] at misread
    rw [reread_of_not_isMisread misread, List.mem_singleton] at member
    rw [member, misread]

theorem flatMap_reread_eq_self_iff (name : List Char) :
    name.flatMap reread = name ↔
      ∀ character ∈ name, isMisread character = false := by
  constructor
  · intro same character member
    rw [← same] at member
    rcases List.mem_flatMap.mp member with ⟨source, _, inside⟩
    exact not_isMisread_of_mem_reread inside
  · intro read
    induction name with
    | nil => rfl
    | cons character name ih =>
        rw [List.flatMap_cons,
          reread_of_not_isMisread (read character (by simp)),
          ih fun other member => read other (by simp [member])]
        rfl

/-! ## Queries -/

namespace Query

theorem readUnits_hexPair
    {character : Char}
    (control : character.toNat < 0x20)
    (rest : List Char) :
    readUnits ('0' :: '0' :: (Value.hexPair character.toNat ++ rest)) =
      some (character, rest) := by
  have digits :
      Text.hexadecimal? 4
          ('0' :: '0' :: (Value.hexPair character.toNat ++ rest)) =
        some (character.toNat, rest) := by
    have value := natural?_hexPair character.toNat control
    simp only [Value.hexPair] at value ⊢
    simp [Text.hexadecimal?, value]
  have low : Text.isHighSurrogate character.toNat = false := by
    simp only [Text.isHighSurrogate, Bool.and_eq_false_iff,
      decide_eq_false_iff_not]
    omega
  have named : Text.character? character.toNat = some character := by
    have valid : character.toNat.isValidChar := character.valid
    rw [Text.character?, dif_pos valid]
    exact congrArg some (Char.toNat_inj.mp rfl)
  simp [readUnits, Text.escapedUnits?, digits, low, named]

theorem readQuoted_escape
    (fuel : Nat) (character : Char) (rest : List Char) :
    readQuoted '"' (fuel + 1) (Value.escape character ++ rest) =
      (readQuoted '"' fuel rest).map fun read =>
        (character :: read.1, read.2) := by
  cases escapeForm character with
  | mark letter written notUnits meaning reading =>
      rw [written, List.cons_append, List.cons_append, List.nil_append,
        readQuoted]
      · by_cases quote : letter = '"'
        · subst quote
          have same : '"' = character := Option.some.inj meaning
          subst same
          rfl
        · simp [quote, meaning]
      · simp_all
  | units control written reading =>
      rw [written]
      simp only [List.cons_append]
      rw [readQuoted, readUnits_hexPair control]
  | itself printable written notQuote notBackslash reading =>
      rw [written, List.cons_append, List.nil_append, readQuoted]
      · simp [notQuote, notBackslash, Nat.not_lt.mpr printable]
      · simp_all
      · simp_all

theorem readQuoted_quoted
    {fuel : Nat} {name : List Char}
    (enough : name.length < fuel)
    (rest : List Char) :
    readQuoted '"' fuel (name.flatMap Value.escape ++ '"' :: rest) =
      some (name, rest) := by
  induction name generalizing fuel with
  | nil =>
      cases fuel with
      | zero => simp at enough
      | succ fuel => simp [readQuoted]
  | cons character name ih =>
      cases fuel with
      | zero => simp at enough
      | succ fuel =>
          have tail := ih (Nat.lt_of_succ_lt_succ enough)
          simp [readQuoted_escape, tail]

/-- A query reads a quoted name back as it was. -/
theorem readText_quoted (name rest : List Char) :
    readText (Value.quoted name ++ rest) =
      some (String.ofList name, rest) := by
  have enough :
      name.length <
        (name.flatMap Value.escape ++ '"' :: rest).length + 1 := by
    have shorter := length_le_flatMap escape_ne_nil name
    rw [List.length_append]
    omega
  have read := readQuoted_quoted enough rest
  simp only [Value.quoted, List.cons_append, List.append_assoc,
    List.nil_append, readText, read]
  rfl

end Query

end Stencil
