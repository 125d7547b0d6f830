import Stencil.Operator.Inception
import Stencil.Operator.Symbol
import Stencil.Operator.Take
import Stencil.Proofs.Path.Rereading
import Stencil.Proofs.Text.Pieces

/-!
# Displayed operators

The token that displays an operator stands for that operator again, in every
family whose tokens are a mark and at most one part behind it.  The part is a
count or a path as it was parsed: the count fits sixty-four bits, and the path
is trimmed.  A depth beyond sixty-four bits is the one that is refused.
-/

namespace Stencil

/-! ## Digits behind a mark -/

theorem isBlank_of_mem_decimal
    {value : Nat} {digit : Char}
    (member : digit ∈ Numeral.decimal value) :
    Text.isBlank digit = false := by
  apply isBlank_of_isIdentifierPart
  simp [isIdentifierPart, Numeral.isDigit_of_mem_decimal member]

theorem isTrimmed_decimal (value : Nat) :
    Text.IsTrimmed (Numeral.decimal value) :=
  Text.isTrimmed_of_forall fun _ member => isBlank_of_mem_decimal member

theorem isTrimmed_cons_decimal
    {mark : Char}
    (ink : Text.isBlank mark = false)
    (value : Nat) :
    Text.IsTrimmed (mark :: Numeral.decimal value) :=
  .cons ink (isTrimmed_decimal value).last_ink

/-! ## Taking matches -/

namespace Take

/-- Whether the count of matches fits sixty-four bits. -/
def isBounded (take : Take) : Bool :=
  take.count.all (· < Numeral.countLimit)

theorem isBounded_of_ofChars?
    {characters : List Char} {take : Take}
    (found : ofChars? characters = some take) :
    take.isBounded = true := by
  rw [ofChars?.eq_def] at found
  split at found
  · rcases Option.some.inj found with rfl
    rfl
  · split at found
    · rcases Option.map_eq_some_iff.mp found with ⟨count, read, rfl⟩
      simpa [isBounded] using (Option.filter_eq_some_iff.mp read).2
    · cases found
  · cases found

theorem isBounded_of_parse
    {token : String} {take : Take}
    (parsed : parse token = .ok take) :
    take.isBounded = true := by
  rw [parse] at parsed
  split at parsed
  · next found =>
      rcases Except.ok.inj parsed with rfl
      exact isBounded_of_ofChars? found
  · cases parsed

theorem parse_display
    {take : Take}
    (bounded : take.isBounded = true) :
    parse take.display = .ok take := by
  rcases take with ⟨_ | count⟩
  · rfl
  · have fits : count < Numeral.countLimit := by
      simpa [isBounded] using bounded
    have digits : (Numeral.decimal count).all Numeral.isDigit = true :=
      List.all_eq_true.mpr (decimal_inside count)
    have read := Numeral.natural?_decimal count
    rcases exists_decimal_eq_cons count with ⟨first, behind, shape, _⟩
    have found : ofChars? ('+' :: Numeral.decimal count) = some ⟨some count⟩ := by
      rw [shape] at digits read ⊢
      rw [ofChars?, if_pos digits, read]
      · simp [Option.filter, fits]
      · exact List.cons_ne_nil first behind
    rw [parse, display, String.toList_ofList, chars,
      (isTrimmed_cons_decimal (by decide) count).trim_eq, found]

end Take

/-! ## Symbols and enumeration -/

namespace SymbolOperator

/-- Whether the path of a tag can have come from a token: it is trimmed and not empty. -/
def IsWritten : SymbolOperator → Prop
  | .reserved => True
  | .tag path =>
    ∀ written ∈ path, written.toList ≠ [] ∧ Text.IsTrimmed written.toList

theorem isWritten_of_parse
    {token : String} {symbol : SymbolOperator}
    (parsed : parse token = .ok symbol) :
    symbol.IsWritten := by
  rw [parse] at parsed
  split at parsed
  · next found =>
      rcases Except.ok.inj parsed with rfl
      rw [ofChars?.eq_def] at found
      split at found
      · next rest _ =>
          rcases Option.some.inj found with rfl
          intro path member
          split at member
          · cases member
          · next nonempty =>
              rcases Option.some.inj member with rfl
              rw [String.toList_ofList]
              exact
                ⟨fun empty => nonempty (by rw [empty]; rfl),
                  Text.isTrimmed_trim rest⟩
      · rcases Option.some.inj found with rfl
        exact True.intro
      · cases found
  · cases parsed

theorem parse_display
    {symbol : SymbolOperator}
    (written : symbol.IsWritten) :
    parse symbol.display = .ok symbol := by
  cases symbol with
  | reserved => rfl
  | tag path =>
      cases path with
      | none => rfl
      | some path =>
          rcases written path rfl with ⟨nonempty, trimmed⟩
          have whole : Text.IsTrimmed ('#' :: path.toList) :=
            .cons (by decide) trimmed.last_ink
          have shown : path.toList.isEmpty = false := by
            simpa using nonempty
          rw [parse, display, String.toList_ofList, chars, Option.getD_some,
            whole.trim_eq, ofChars?, trimmed.trim_eq, shown,
            String.ofList_toList]
          rfl

end SymbolOperator

namespace Enumeration

theorem parse_display (enumeration : Enumeration) :
    parse enumeration.display = .ok enumeration := by
  cases enumeration with
  | elements => rfl
  | entries => rfl

end Enumeration

/-! ## Inception -/

namespace InceptionMode

theorem parse_display (mode : InceptionMode) :
    parse mode.display = .ok mode := by
  cases mode with
  | lens => rfl
  | lead => rfl
  | zip => rfl

theorem not_isDigit_mark (mode : InceptionMode) :
    Numeral.isDigit mode.mark = false := by
  cases mode with
  | lens => rfl
  | lead => rfl
  | zip => rfl

theorem isBlank_mark (mode : InceptionMode) :
    Text.isBlank mode.mark = false := by
  cases mode with
  | lens => rfl
  | lead => rfl
  | zip => rfl

end InceptionMode

/-- Whether a depth fits sixty-four bits, if it is bounded at all. -/
def Depth.isBounded : Depth → Bool
  | .finite levels => levels < Numeral.countLimit
  | .unbounded => true

namespace Numeral

theorem count?_decimal (value : Nat) :
    count? (decimal value) =
      if value < countLimit then some value else none := by
  have unsigned : count? (decimal value) =
      (natural? 10 (decimal value)).filter (· < countLimit) := by
    rw [count?]
    exact decimal_ne_cons (by decide) value
  rw [unsigned, natural?_decimal]
  by_cases fits : value < countLimit
  · simp [Option.filter, fits]
  · simp [Option.filter, fits]

end Numeral

namespace Inception

theorem depthOf?_decimal (mode : InceptionMode) (levels : Nat) :
    depthOf? mode.mark (Numeral.decimal levels) =
      if levels < Numeral.countLimit then some (.finite levels)
      else none := by
  have read := Numeral.count?_decimal levels
  have trimmed := (isTrimmed_decimal levels).trim_eq
  rcases exists_decimal_eq_cons levels with ⟨first, behind, shape, digit⟩
  have different : first ≠ mode.mark := by
    rintro rfl
    rw [mode.not_isDigit_mark] at digit
    cases digit
  rw [shape] at read trimmed ⊢
  rw [depthOf?, if_neg different, trimmed, read]
  split
  · rfl
  · rfl

/-- The token of an inception is refused only when its depth does not fit sixty-four bits. -/
theorem parse_display (inception : Inception) :
    parse inception.display =
      if inception.depth.isBounded then .ok inception
      else .error (.invalidDepth inception.display) := by
  rcases inception with ⟨mode, levels | _⟩
  · have trimmed :
        Text.trim (mode.mark :: Numeral.decimal levels) =
          mode.mark :: Numeral.decimal levels :=
      (isTrimmed_cons_decimal mode.isBlank_mark levels).trim_eq
    rw [parse, display, String.toList_ofList, chars, trimmed]
    dsimp only
    rw [InceptionMode.ofMark?_mark, depthOf?_decimal]
    by_cases fits : levels < Numeral.countLimit
    · simp [Depth.isBounded, fits]
    · simp [Depth.isBounded, fits]
  · cases mode with
    | lens => rfl
    | lead => rfl
    | zip => rfl

end Inception

end Stencil
