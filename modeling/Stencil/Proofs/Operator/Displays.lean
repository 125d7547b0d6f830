import Stencil.Proofs.Operator.Tokens
import Stencil.Proofs.Text.Counts

/-!
# One display for every operator

However an operator is written, its display stands for it, so two tokens stand
for one operator exactly when their displays are the same.  The tokens of an
inception are a mode alone, a mode repeated and a mode with a count behind it;
repeating the mode and writing the count give the same depth.  A token without
a mode in front is unknown, and every other one has an invalid depth.
-/

namespace Stencil

/-! ## Families of tokens -/

/-- In a family of operators, the display of an operator stands for all of its tokens. -/
structure DisplaysTokens {Operator : Type}
    (parse : String → Except TokenError Operator)
    (display : Operator → String) : Prop where
  /-- The display of an operator that a token stands for is a token of it. -/
  reparses :
    ∀ (token : String) (operator : Operator),
      token.length < Numeral.countLimit →
        parse token = .ok operator →
          parse (display operator) = .ok operator
  /-- Two tokens stand for one operator exactly when it has one display. -/
  separates :
    ∀ (token other : String) (operator next : Operator),
      token.length < Numeral.countLimit →
        other.length < Numeral.countLimit →
          parse token = .ok operator →
            parse other = .ok next →
              (operator = next ↔ display operator = display next)

/-- Where displays stand for their operators, different operators have different displays. -/
theorem DisplaysTokens.of_reparses
    {Operator : Type}
    {parse : String → Except TokenError Operator}
    {display : Operator → String}
    (reparses :
      ∀ (token : String) (operator : Operator),
        token.length < Numeral.countLimit →
          parse token = .ok operator →
            parse (display operator) = .ok operator) :
    DisplaysTokens parse display where
  reparses := reparses
  separates := by
    intro token other operator next short shortOther parsed parsedOther
    constructor
    · exact congrArg display
    · intro shown
      have first := reparses token operator short parsed
      have second := reparses other next shortOther parsedOther
      rw [shown] at first
      exact Except.ok.inj (first.symm.trans second)

namespace Inception

/-! ## Tokens of an inception -/

/-- How an inception is spelled, without blanks around it. -/
inductive Spells : List Char → Inception → Prop where
  | bare (mode : InceptionMode) :
      Spells [mode.mark] ⟨mode, .unbounded⟩
  | repeated (mode : InceptionMode) {levels : Nat} (twice : 2 ≤ levels) :
      Spells (List.replicate levels mode.mark) ⟨mode, .finite levels⟩
  | counted (mode : InceptionMode) {count : List Char} {levels : Nat}
      (writes : Numeral.WritesCount (Text.trim count) levels) :
      Spells (mode.mark :: count) ⟨mode, .finite levels⟩

theorem exists_mark_of_spells
    {characters : List Char} {inception : Inception}
    (spells : Spells characters inception) :
    ∃ rest, characters = inception.mode.mark :: rest := by
  cases spells with
  | bare mode => exact ⟨[], rfl⟩
  | @repeated mode levels twice =>
      cases levels with
      | zero => exact absurd twice (by decide)
      | succ levels => exact ⟨_, List.replicate_succ⟩
  | counted mode writes => exact ⟨_, rfl⟩

/-- No count begins with a mark, so a mark behind the mark can only repeat it. -/
theorem not_writesCount_mark
    (mode : InceptionMode) (rest : List Char) (levels : Nat) :
    ¬Numeral.WritesCount (Text.trim (mode.mark :: rest)) levels := by
  intro writes
  rcases Text.exists_trim_cons mode.isBlank_mark rest with ⟨behind, shape⟩
  rw [shape] at writes
  rcases writes.exists_head with ⟨first, _, split, plus | digit⟩
  · rcases List.cons.inj split with ⟨rfl, _⟩
    cases mode with
    | lens => cases plus
    | lead => cases plus
    | zip => cases plus
  · rcases List.cons.inj split with ⟨rfl, _⟩
    rw [mode.not_isDigit_mark] at digit
    cases digit

theorem depthOf?_eq_some_iff
    (mode : InceptionMode) (rest : List Char) (depth : Depth) :
    depthOf? mode.mark rest = some depth ↔
      Spells (mode.mark :: rest) ⟨mode, depth⟩ := by
  constructor
  · intro found
    cases rest with
    | nil =>
        rcases Option.some.inj found with rfl
        exact .bare mode
    | cons next others =>
        rw [depthOf?] at found
        split at found
        · next repeats =>
            rcases repeats with rfl
            split at found
            · next all =>
                rcases Option.some.inj found with rfl
                have shape :
                    mode.mark :: mode.mark :: others =
                      List.replicate (others.length + 2) mode.mark := by
                  apply List.eq_replicate_iff.mpr
                  refine ⟨rfl, fun character member => ?_⟩
                  rcases List.mem_cons.mp member with same | behind
                  · exact same
                  · exact eq_of_beq (List.all_eq_true.mp all character behind)
                rw [shape]
                exact .repeated mode (Nat.le_add_left 2 others.length)
            · cases found
        · rcases Option.map_eq_some_iff.mp found with ⟨levels, read, rfl⟩
          exact .counted mode (Numeral.count?_eq_some_iff.mp read)
  · intro spells
    generalize whole : mode.mark :: rest = characters at spells
    cases spells with
    | bare =>
        rcases (List.cons.inj whole).2 with rfl
        rfl
    | @repeated _ levels twice =>
        obtain ⟨more, rfl⟩ := Nat.exists_eq_add_of_le' twice
        rcases (List.cons.inj (whole.trans List.replicate_succ)).2 with rfl
        rw [List.replicate_succ, depthOf?, if_pos rfl, if_pos]
        · simp
        · simp
    | @counted _ count levels writes =>
        rcases (List.cons.inj whole).2 with rfl
        cases rest with
        | nil =>
            rcases writes.exists_head with ⟨_, _, impossible, _⟩
            cases impossible
        | cons next others =>
            have different : next ≠ mode.mark := by
              rintro rfl
              exact not_writesCount_mark mode others levels writes
            rw [depthOf?, if_neg different, Numeral.count?_eq_some_iff.mpr writes]
            rfl

/-! ## Reading tokens -/

theorem mark_of_ofMark?
    {character : Char} {mode : InceptionMode}
    (found : InceptionMode.ofMark? character = some mode) :
    character = mode.mark := by
  rw [InceptionMode.ofMark?.eq_def] at found
  split at found
  · cases found
    rfl
  · cases found
    rfl
  · cases found
    rfl
  · cases found

/-- What stands behind the mark decides on the depth. -/
theorem parse_of_mark
    {token : String} {mode : InceptionMode} {rest : List Char}
    (marked : Text.trim token.toList = mode.mark :: rest) :
    parse token =
      match depthOf? mode.mark rest with
      | some depth => .ok ⟨mode, depth⟩
      | none => .error (.invalidDepth token) := by
  cases found : depthOf? mode.mark rest with
  | some depth => simp only [parse, marked, InceptionMode.ofMark?_mark, found]
  | none => simp only [parse, marked, InceptionMode.ofMark?_mark, found]

/-- Without a mark in front a token is unknown. -/
theorem parse_of_no_mark
    {token : String}
    (unmarked :
      ∀ (mode : InceptionMode) (rest : List Char),
        Text.trim token.toList ≠ mode.mark :: rest) :
    parse token = .error (.unknown .inception token) := by
  rw [parse]
  split
  · rfl
  · next character rest split =>
      cases found : InceptionMode.ofMark? character with
      | none => rfl
      | some mode =>
          rw [mark_of_ofMark? found] at split
          exact absurd split (unmarked mode rest)

theorem parse_eq_ok_iff
    (token : String) (inception : Inception) :
    parse token = .ok inception ↔
      Spells (Text.trim token.toList) inception := by
  by_cases marked :
      ∃ (mode : InceptionMode) (rest : List Char),
        Text.trim token.toList = mode.mark :: rest
  · rcases marked with ⟨mode, rest, marked⟩
    rw [parse_of_mark marked, marked]
    constructor
    · intro parsed
      split at parsed
      · next depth found =>
          rcases Except.ok.inj parsed with rfl
          exact (depthOf?_eq_some_iff mode rest depth).mp found
      · cases parsed
    · intro spells
      rcases inception with ⟨other, depth⟩
      rcases exists_mark_of_spells spells with ⟨_, split⟩
      have same : mode = other := by
        have marks := congrArg InceptionMode.ofMark? (List.cons.inj split).1
        rw [InceptionMode.ofMark?_mark, InceptionMode.ofMark?_mark] at marks
        exact Option.some.inj marks
      rcases same with rfl
      rw [(depthOf?_eq_some_iff mode rest depth).mpr spells]
  · have unmarked :
        ∀ (mode : InceptionMode) (rest : List Char),
          Text.trim token.toList ≠ mode.mark :: rest :=
      fun mode rest shape => marked ⟨mode, rest, shape⟩
    rw [parse_of_no_mark unmarked]
    constructor
    · intro parsed
      cases parsed
    · intro spells
      rcases exists_mark_of_spells spells with ⟨rest, shape⟩
      exact absurd shape (unmarked _ rest)

/-- What is refused behind a mark is the depth. -/
theorem parse_eq_invalidDepth_iff
    (token : String) :
    parse token = .error (.invalidDepth token) ↔
      (∃ (mode : InceptionMode) (rest : List Char),
        Text.trim token.toList = mode.mark :: rest) ∧
      ∀ inception, ¬Spells (Text.trim token.toList) inception := by
  constructor
  · intro refused
    constructor
    · by_contra marked
      have unknown := parse_of_no_mark fun mode rest shape => marked ⟨mode, rest, shape⟩
      exact nomatch refused.symm.trans unknown
    · intro inception spells
      exact nomatch refused.symm.trans ((parse_eq_ok_iff token inception).mpr spells)
  · rintro ⟨⟨mode, rest, marked⟩, unspelled⟩
    rw [parse_of_mark marked]
    cases found : depthOf? mode.mark rest with
    | none => rfl
    | some depth =>
        have spells := (depthOf?_eq_some_iff mode rest depth).mp found
        rw [← marked] at spells
        exact absurd spells (unspelled _)

theorem parse_eq_unknown_iff
    (token : String) :
    parse token = .error (.unknown .inception token) ↔
      ∀ (mode : InceptionMode) (rest : List Char),
        Text.trim token.toList ≠ mode.mark :: rest := by
  constructor
  · intro unknown mode rest marked
    rw [parse_of_mark marked] at unknown
    split at unknown
    · cases unknown
    · cases unknown
  · exact parse_of_no_mark

/-! ## Depths that are displayed -/

/-- A depth that is spelled by repeating the mode is bounded by the length of its token. -/
theorem isBounded_of_spells
    {characters : List Char} {inception : Inception}
    (short : characters.length < Numeral.countLimit)
    (spells : Spells characters inception) :
    inception.depth.isBounded = true := by
  cases spells with
  | bare mode => rfl
  | repeated mode twice =>
      rw [List.length_replicate] at short
      exact decide_eq_true short
  | counted mode writes => exact decide_eq_true writes.lt_countLimit

theorem parse_display_of_parse
    {token : String} {inception : Inception}
    (short : token.length < Numeral.countLimit)
    (parsed : parse token = .ok inception) :
    parse inception.display = .ok inception := by
  have trimmed :
      (Text.trim token.toList).length < Numeral.countLimit := by
    have shorter := (Text.trim_sublist token.toList).length_le
    rw [String.length_toList] at shorter
    omega
  have bounded :=
    isBounded_of_spells trimmed ((parse_eq_ok_iff token inception).mp parsed)
  rw [parse_display, if_pos bounded]

/-- Repeating a mode and writing how often give one inception. -/
theorem parse_replicate
    (mode : InceptionMode) {levels : Nat}
    (twice : 2 ≤ levels) (fits : levels < Numeral.countLimit) :
    parse (String.ofList (List.replicate levels mode.mark)) =
      parse (String.ofList (mode.mark :: Numeral.decimal levels)) := by
  have trimmed :
      Text.trim (List.replicate levels mode.mark) =
        List.replicate levels mode.mark := by
    apply Text.IsTrimmed.trim_eq
    apply Text.isTrimmed_of_forall
    intro character member
    rw [List.eq_of_mem_replicate member]
    exact mode.isBlank_mark
  have repeated :
      parse (String.ofList (List.replicate levels mode.mark)) =
        .ok ⟨mode, .finite levels⟩ := by
    rw [parse_eq_ok_iff, String.toList_ofList, trimmed]
    exact .repeated mode twice
  have counted :
      parse (display ⟨mode, .finite levels⟩) = .ok ⟨mode, .finite levels⟩ := by
    rw [parse_display, Depth.isBounded, decide_eq_true fits, if_pos rfl]
  exact repeated.trans counted.symm

end Inception

/--
Every operator of the five families has one display, which stands for all of
its tokens.  A trimmed token of an inception spells it by its mode alone, by
repeating the mode or by a count behind the mode, and the last two agree.  Of the
other tokens, those without a mode in front are unknown, and the depth of those
with one is invalid.
-/
theorem displays_tokens :
    DisplaysTokens Take.parse Take.display ∧
    DisplaysTokens SymbolOperator.parse SymbolOperator.display ∧
    DisplaysTokens Enumeration.parse Enumeration.display ∧
    DisplaysTokens InceptionMode.parse InceptionMode.display ∧
    DisplaysTokens Inception.parse Inception.display ∧
    (∀ token inception,
      Inception.parse token = .ok inception ↔
        Inception.Spells (Text.trim token.toList) inception) ∧
    (∀ (mode : InceptionMode) (levels : Nat),
      2 ≤ levels →
        levels < Numeral.countLimit →
          Inception.parse (String.ofList (List.replicate levels mode.mark)) =
            Inception.parse (String.ofList (mode.mark :: Numeral.decimal levels))) ∧
    (∀ token,
      Inception.parse token = .error (.unknown .inception token) ↔
        ∀ (mode : InceptionMode) (rest : List Char),
          Text.trim token.toList ≠ mode.mark :: rest) ∧
    (∀ token,
      Inception.parse token = .error (.invalidDepth token) ↔
        (∃ (mode : InceptionMode) (rest : List Char),
          Text.trim token.toList = mode.mark :: rest) ∧
        ∀ inception, ¬Inception.Spells (Text.trim token.toList) inception) := by
  refine ⟨?take, ?symbol, ?enumeration, ?mode, ?inception,
    Inception.parse_eq_ok_iff, ?repeated, Inception.parse_eq_unknown_iff,
    Inception.parse_eq_invalidDepth_iff⟩
  case take =>
    apply DisplaysTokens.of_reparses
    intro token take _ parsed
    exact Take.parse_display (Take.isBounded_of_parse parsed)
  case symbol =>
    apply DisplaysTokens.of_reparses
    intro token symbol _ parsed
    exact SymbolOperator.parse_display (SymbolOperator.isWritten_of_parse parsed)
  case enumeration =>
    apply DisplaysTokens.of_reparses
    intro token enumeration _ _
    exact Enumeration.parse_display enumeration
  case mode =>
    apply DisplaysTokens.of_reparses
    intro token mode _ _
    exact InceptionMode.parse_display mode
  case inception =>
    apply DisplaysTokens.of_reparses
    intro token inception short parsed
    exact Inception.parse_display_of_parse short parsed
  case repeated =>
    intro mode levels twice fits
    exact Inception.parse_replicate mode twice fits

/-- Three marks and a three behind blanks, a plus sign and a zero have one display. -/
theorem displays_tokens_thrice :
    Inception.parse "%%%" = Inception.parse "%3" ∧
      Inception.parse (Inception.display ⟨.zip, .finite 3⟩) = .ok ⟨.zip, .finite 3⟩ ∧
      Take.parse (Take.display ⟨some 7⟩) = .ok ⟨some 7⟩ := by
  rcases displays_tokens with ⟨take, _, _, _, inception, _, repeated, _, _⟩
  refine ⟨repeated .zip 3 (by decide) (by decide), ?zip, ?first⟩
  case zip =>
    exact inception.reparses " % +03 " ⟨.zip, .finite 3⟩ (by decide) rfl
  case first => exact take.reparses " +007 " ⟨some 7⟩ (by decide) rfl

end Stencil
