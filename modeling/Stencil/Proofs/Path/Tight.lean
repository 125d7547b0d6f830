import Stencil.Proofs.Path.Grammar
import Stencil.Proofs.Path.Overlap
import Stencil.Proofs.Query.Direct

/-!
# Valid queries that are no singular path

A path that is no singular path is reported as not singular when it is a valid
query.  Of the queries that are not direct this is always said.  It is also said
of some direct ones: singular paths take no blanks in front of a segment unless
they stand behind a dotted name, and no dotted name of blanks only, which to a
query may be blanks beyond ASCII.  A path is tight when it holds neither, and
the tight direct queries are all singular paths.
-/

namespace Stencil

namespace Path

/-- Whether the characters begin with a blank of queries. -/
def opensWithSpace (characters : List Char) : Bool :=
  characters.head?.any Value.isSpace

/--
Whether a character outside of quotation marks is followed in a way that
singular paths take: by a name that is not blank behind a dot, and by no blank
behind the root or a closing bracket.
-/
def isTightBehind (character : Char) (rest : List Char) : Bool :=
  if character = '.' then
    (rest.takeWhile Query.isNamePart).any fun part => !Text.isBlank part
  else if character = '$' ∨ character = ']' then !opensWithSpace rest
  else true

/--
Whether every character outside of quotation marks is followed tightly.  The
first argument is the quotation mark that is open, if any.
-/
def isTightFrom : Option Char → List Char → Bool
  | _, [] => true
  | none, character :: rest =>
    isTightBehind character rest &&
      isTightFrom
        (if character = '\'' ∨ character = '"' then some character else none)
        rest
  | some quote, '\\' :: _ :: rest => isTightFrom (some quote) rest
  | some quote, character :: rest =>
    isTightFrom (if character = quote then none else some quote) rest

/-- Whether a path, trimmed and qualified by the root, is tight. -/
def isTight (path : String) : Bool :=
  isTightFrom none (qualified (Text.trimmed path)).toList

/-! ## Runs -/

theorem isTightFrom_cons
    {character : Char}
    (quotation : ¬(character = '\'' ∨ character = '"'))
    (rest : List Char) :
    isTightFrom none (character :: rest) =
      (isTightBehind character rest && isTightFrom none rest) := by
  rw [isTightFrom, if_neg quotation]

/-- A run without dots, closing brackets, dollar signs and quotation marks decides nothing. -/
theorem isTightFrom_dropWhile
    {holds : Char → Bool}
    (unmarked :
      ['.', '$', ']', '\'', '"'].all (fun mark => !holds mark) = true)
    (characters : List Char) :
    isTightFrom none (characters.dropWhile holds) =
      isTightFrom none characters := by
  have other
      {character mark : Char} (inside : holds character = true)
      (member : mark ∈ ['.', '$', ']', '\'', '"']) :
      character ≠ mark := by
    have outside := List.all_eq_true.mp unmarked mark member
    rw [Bool.not_eq_true'] at outside
    exact ne_of_holds inside outside
  apply eq_dropWhile_of_cons
  intro character rest inside
  have quotation : ¬(character = '\'' ∨ character = '"') :=
    not_or.mpr ⟨other inside (by decide), other inside (by decide)⟩
  have closing : ¬(character = '$' ∨ character = ']') :=
    not_or.mpr ⟨other inside (by decide), other inside (by decide)⟩
  rw [isTightFrom_cons quotation, isTightBehind,
    if_neg (other inside (by decide)), if_neg closing, Bool.true_and]

theorem isTightFrom_trimStart (characters : List Char) :
    isTightFrom none (Text.trimStart characters) =
      isTightFrom none characters :=
  isTightFrom_dropWhile (by decide) characters

/-- What stands between quotation marks decides nothing. -/
theorem isTightFrom_of_readQuotedName
    {quote : Char} {characters name behind : List Char}
    (read :
      Location.readQuotedName quote characters = some (name, behind)) :
    isTightFrom (some quote) characters = isTightFrom none behind := by
  fun_induction Location.readQuotedName quote characters
      generalizing name with
  | case1 => cases read
  | case2 => cases read
  | case3 first rest ih =>
      rcases Option.map_eq_some_iff.mp read with ⟨⟨tail, _⟩, found, equal⟩
      rcases Prod.mk.inj equal with ⟨_, rfl⟩
      exact ih found
  | case4 rest notLast notEscape =>
      rcases Prod.mk.inj (Option.some.inj read) with ⟨_, rfl⟩
      rw [isTightFrom, if_pos rfl]
      exact notEscape
  | case5 first rest notLast notEscape inside ih =>
      rcases Option.map_eq_some_iff.mp read with ⟨⟨tail, _⟩, found, equal⟩
      rcases Prod.mk.inj equal with ⟨_, rfl⟩
      rw [isTightFrom, if_neg inside]
      · exact ih found
      · exact notEscape

end Path

/-! ## One segment -/

namespace Location

theorem length_lt_of_readSegment
    {characters rest : List Char} {segment : Segment}
    (read : readSegment characters = some (segment, rest)) :
    rest.length < characters.length := by
  rcases Spelling.exists_spelling_of_readSegment read with ⟨spelling, rfl, _⟩
  have positive := List.length_pos_iff.mpr spelling.chars_ne_nil
  rw [List.length_append]
  omega

/-- Segments are read exactly when those behind the first one are. -/
theorem isSome_readSegments_of_readSegment
    {bound : Nat} {characters rest : List Char} {segment : Segment}
    (read : readSegment characters = some (segment, rest)) :
    (readSegments (bound + 1) characters).isSome =
      (readSegments bound rest).isSome := by
  rw [readSegments, read]
  · exact Option.isSome_map
  · rintro rfl
    cases read

theorem readSegments_eq_none_of_readSegment
    {bound : Nat} {characters : List Char}
    (nonempty : characters ≠ [])
    (unread : readSegment characters = none) :
    readSegments bound characters = none := by
  cases bound with
  | zero =>
      cases characters with
      | nil => exact absurd rfl nonempty
      | cons first rest => rfl
  | succ bound =>
      rw [readSegments, unread]
      exact nonempty

end Location

namespace Path

/--
A direct name behind a dot is read as a singular path exactly when it is not
blank, with the blanks behind it.
-/
theorem readDotted_of_direct
    {fuel fewer : Nat} {characters behind : List Char}
    {segment : QuerySegment} {tail : List QuerySegment}
    (direct : segment.isDirect = true)
    (found :
      Query.readSegment fuel ('.' :: characters) = some (segment, behind))
    (further : Query.readSegments fewer behind = (tail, [])) :
    Value.skipSpace behind = characters.dropWhile Location.isNameCharacter ∧
      (Location.readDotted characters).isSome =
        isTightBehind '.' characters ∧
      isTightFrom none (Value.skipSpace behind) =
        isTightFrom none characters := by
  have single := Query.head_of_readSegment_dot direct found
  rcases Query.readSegment_dot single found with ⟨_, rfl⟩
  rcases Location.nameCharacters_of_followsSegment
      (Query.followsSegment_skipSpace further) with ⟨names, rests⟩
  have blank :
      ∀ character ∈
          (characters.dropWhile Query.isNamePart).takeWhile Value.isSpace,
        Text.isBlank character = true :=
    forall_mem_takeWhile_of_imp isBlank_of_isSpace _
  refine ⟨rests.symm, ?_, ?_⟩
  · rw [Location.readDotted, names, Text.trim_append blank, isTightBehind,
      if_pos rfl, Bool.eq_iff_iff]
    simp [Text.trim_eq_nil_iff]
  · rw [Value.skipSpace, isTightFrom_dropWhile (by decide),
      isTightFrom_dropWhile (by decide)]

/-- A direct selector is read as a singular path, up to the same place. -/
theorem readSelector_of_direct
    {fuel : Nat} {characters left : List Char} {selector : Selector}
    (direct : selector.isDirect = true)
    (found :
      Query.readSelector fuel characters = some (selector, left))
    (ends : EndsRun Numeral.isDigit left) :
    (∃ segment : Segment,
      Location.readSelector characters = some (segment, left)) ∧
      isTightFrom none characters = isTightFrom none left := by
  rcases Query.readSelector_direct direct found with
    ⟨quote, rest, fewer, name, quotation, rfl, quoted⟩ | ⟨position, natural⟩
  · rcases readQuotedName_of_readQuoted quotation quoted with
      ⟨content, named, _, _⟩
    constructor
    · refine ⟨.member (String.ofList content), ?_⟩
      rw [Location.readSelector_quotation quotation, named]
      rfl
    · rw [← isTightFrom_of_readQuotedName named]
      rcases quotation with rfl | rfl
      · rfl
      · rfl
  · have indexed := Location.readIndex_of_readNatural natural ends
    constructor
    · refine ⟨.index position, ?_⟩
      cases characters with
      | nil => cases natural
      | cons first rest =>
          cases digit : Numeral.isDigit first with
          | true => rw [Location.readSelector_digit digit, indexed]
          | false =>
              rw [Query.readNatural_eq_none digit] at natural
              cases natural
    · rcases Option.map_eq_some_iff.mp indexed with ⟨_, _, equal⟩
      rcases Prod.mk.inj equal with ⟨_, rfl⟩
      rw [isTightFrom_dropWhile (by decide)]

/--
What a direct query has in brackets is read as a singular path, and whether it
is tight is settled behind the closing bracket.
-/
theorem readBracketed_of_direct
    {fuel : Nat} {characters behind : List Char} {segment : QuerySegment}
    (direct : segment.isDirect = true)
    (found :
      Query.readSegment fuel ('[' :: characters) = some (segment, behind)) :
    (∃ same : Segment,
      Location.readBracketed characters = some (same, behind)) ∧
      isTightFrom none characters =
        (!opensWithSpace behind && isTightFrom none behind) := by
  rcases Query.readSegment_bracket found with ⟨_, selectors, rfl, several⟩
  rcases QuerySegment.exists_selector_of_isDirect direct with
    ⟨selector, rfl, single⟩
  rcases Query.readSelectors_singleton several with
    ⟨fewer, left, one, closes⟩
  rw [skipSpace_eq_trimStart one] at one
  rcases readSelector_of_direct single one
      (endsRun_of_skipSpace closes (by decide)) with ⟨⟨same, read⟩, tight⟩
  have closed : Text.trimStart left = ']' :: behind := by
    rw [← Text.trimStart_skipSpace, closes,
      Location.trimStart_of_not_isBlank (by decide)]
  constructor
  · refine ⟨same, ?_⟩
    rw [Location.readBracketed, read]
    simp only [closed]
  · rw [← isTightFrom_trimStart, tight, ← isTightFrom_trimStart, closed,
      isTightFrom_cons (by decide)]
    rfl

theorem opensWithSpace_skipSpace (characters : List Char) :
    opensWithSpace (Value.skipSpace characters) = false := by
  have stop := List.head?_dropWhile_not Value.isSpace characters
  rw [opensWithSpace, Value.skipSpace]
  cases front : (characters.dropWhile Value.isSpace).head? with
  | none => rfl
  | some first =>
      rw [front] at stop
      simpa using stop

theorem skipSpace_of_opensWithSpace
    {characters : List Char}
    (ink : opensWithSpace characters = false) :
    Value.skipSpace characters = characters := by
  cases characters with
  | nil => rfl
  | cons first rest => exact Query.skipSpace_of_not_isSpace ink rest

theorem readSegment_of_opensWithSpace
    {characters : List Char}
    (space : opensWithSpace characters = true) :
    characters ≠ [] ∧ Location.readSegment characters = none := by
  cases characters with
  | nil => cases space
  | cons first rest =>
      have blank : Value.isSpace first = true := space
      have dot : first ≠ '.' := ne_of_holds blank (by decide)
      have bracket : first ≠ '[' := ne_of_holds blank (by decide)
      simp [Location.readSegment, dot, bracket]

/--
A direct segment with no blank in front is read as a singular path, and then
what stands behind it settles whether the text is tight, or it is not read and
the text is not tight.
-/
theorem readSegment_of_direct
    {fuel fewer : Nat} {characters behind : List Char}
    {segment : QuerySegment} {tail : List QuerySegment}
    (direct : segment.isDirect = true)
    (follows : FollowsSegment characters)
    (found : Query.readSegment fuel characters = some (segment, behind))
    (further : Query.readSegments fewer behind = (tail, [])) :
    (∃ same rest,
      Location.readSegment characters = some (same, rest) ∧
        Query.readSegments fewer rest = (tail, []) ∧
        isTightFrom none characters =
          (!opensWithSpace rest && isTightFrom none rest)) ∨
      (characters ≠ [] ∧ Location.readSegment characters = none ∧
        isTightFrom none characters = false) := by
  cases characters with
  | nil =>
      cases fuel with
      | zero => cases found
      | succ fuel => simp [Query.readSegment] at found
  | cons first characters =>
      rcases follows first rfl with rfl | rfl
      · rcases readDotted_of_direct direct found further with
          ⟨rests, named, tight⟩
        rw [isTightFrom_cons (by decide), ← named, ← tight]
        cases read : Location.readDotted characters with
        | none => exact Or.inr ⟨List.cons_ne_nil _ _, read, rfl⟩
        | some located =>
            rcases located with ⟨same, rest⟩
            rcases Location.readDotted_eq_some read with ⟨_, _, rfl⟩
            rw [← rests] at read
            refine Or.inl
              ⟨same, _, read, Query.readSegments_skipSpace further, ?_⟩
            rw [opensWithSpace_skipSpace]
            rfl
      · rcases readBracketed_of_direct direct found with
          ⟨⟨same, read⟩, tight⟩
        refine Or.inl ⟨same, behind, read, further, ?_⟩
        rw [isTightFrom_cons (by decide), tight]
        rfl

/-! ## Whole queries -/

/--
A direct query that is read to its end is read as segments of a singular path
exactly when no blank stands in front and everything is tight.
-/
theorem isSome_readSegments_of_direct
    {fuel : Nat} {characters : List Char} {segments : List QuerySegment}
    (direct : ∀ segment ∈ segments, segment.isDirect = true)
    (read : Query.readSegments fuel characters = (segments, []))
    {bound : Nat}
    (enough : characters.length ≤ bound) :
    (Location.readSegments bound characters).isSome =
      (!opensWithSpace characters && isTightFrom none characters) := by
  induction segments generalizing fuel characters bound with
  | nil =>
      rcases Query.readSegments_cases read with
        ⟨rfl, _⟩ | ⟨_, _, _, _, _, _, _, absurdity⟩
      · rw [Location.readSegments]
        rfl
      · cases absurdity
  | cons segment segments ih =>
      rcases List.forall_mem_cons.mp direct with ⟨first, others⟩
      cases space : opensWithSpace characters with
      | true =>
          rcases readSegment_of_opensWithSpace space with ⟨nonempty, unread⟩
          rw [Location.readSegments_eq_none_of_readSegment nonempty unread]
          rfl
      | false =>
          have follows := Query.followsSegment_skipSpace read
          rcases Query.readSegments_cases read with
            ⟨_, absurdity⟩ | ⟨fewer, _, behind, _, rfl, found, further, same⟩
          · cases absurdity
          · rcases List.cons.inj same with ⟨rfl, rfl⟩
            rw [skipSpace_of_opensWithSpace space] at follows found
            rcases readSegment_of_direct first follows found further with
              ⟨located, rest, reads, onward, tight⟩ |
                ⟨nonempty, unread, tight⟩
            · -- A segment takes a character, so the bound covers the others.
              have shorter := Location.length_lt_of_readSegment reads
              cases bound with
              | zero => omega
              | succ bound =>
                  rw [Location.isSome_readSegments_of_readSegment reads,
                    ih others onward (by omega), tight]
                  rfl
            · rw [Location.readSegments_eq_none_of_readSegment nonempty
                unread, tight]
              rfl

/-! ## Paths -/

/-- A path is not singular when it names no location though it is a valid query. -/
theorem locate_eq_notSingular_iff_valid (path text : String) :
    locate path = .error (.notSingular text) ↔
      text = qualified (Text.trimmed path) ∧
        (Query.read? text).isSome = true ∧
        ∀ location, locate path ≠ .ok location := by
  have normalized :
      String.ofList (qualify (Text.trim path.toList)) =
        qualified (Text.trimmed path) := by
    rw [qualified, Text.trimmed, String.toList_ofList]
  simp only [locate, normalized]
  cases Location.read? (qualified (Text.trimmed path)).toList with
  | some location => simp
  | none =>
      cases valid : (Query.read? (qualified (Text.trimmed path))).isSome with
      | true =>
          constructor
          · intro reported
            rcases PathError.notSingular.inj (Except.error.inj reported)
              with rfl
            refine ⟨rfl, valid, ?_⟩
            intro location absurdity
            cases absurdity
          · rintro ⟨rfl, _⟩
            rfl
      | false =>
          constructor
          · intro malformed
            cases malformed
          · rintro ⟨rfl, readable, _⟩
            rw [valid] at readable
            cases readable

/-- A direct query names a location exactly when it is tight. -/
theorem exists_locate_iff_isTight
    {path : String} {query : Query}
    (direct : query.isDirect = true)
    (valid : Query.read? (qualified (Text.trimmed path)) = some query) :
    (∃ location, locate path = .ok location) ↔ isTight path = true := by
  rcases Query.read?_eq_some valid with ⟨rest, root, read⟩
  have tight :=
    isSome_readSegments_of_direct (List.all_eq_true.mp direct) read
      (Nat.le_refl rest.length)
  rw [isTight, root, isTightFrom_cons (by decide)]
  simp only [locate_eq_ok_iff, ← toList_qualified_trimmed, root,
    Location.read?, ← Option.isSome_iff_exists]
  rw [tight]
  rfl

/--
A path is reported as not singular exactly when it is a valid query and is not
direct or not tight; the text reported is the path trimmed and qualified by the
root.  So a direct query names a location exactly when it is tight.
-/
theorem locate_eq_notSingular_iff (path text : String) :
    (locate path = .error (.notSingular text) ↔
      text = qualified (Text.trimmed path) ∧
        ∃ query, Query.read? text = some query ∧
          (query.isDirect = false ∨ isTight path = false)) ∧
    ∀ query,
      Query.read? (qualified (Text.trimmed path)) = some query →
      query.isDirect = true →
        ((∃ location, locate path = .ok location) ↔ isTight path = true) := by
  constructor
  · rw [locate_eq_notSingular_iff_valid, Option.isSome_iff_exists]
    apply and_congr_right
    rintro rfl
    constructor
    · rintro ⟨⟨query, valid⟩, nowhere⟩
      refine ⟨query, valid, ?_⟩
      cases direct : query.isDirect with
      | false => exact Or.inl rfl
      | true =>
          right
          rw [← Bool.not_eq_true, ← exists_locate_iff_isTight direct valid]
          rintro ⟨location, located⟩
          exact nowhere location located
    · rintro ⟨query, valid, narrow⟩
      refine ⟨⟨query, valid⟩, ?_⟩
      intro location located
      -- A located query is direct, so that it would have to be tight as well.
      rcases exists_toQuery_of_locate located valid with ⟨queried, same, _⟩
      have direct := query.isDirect_iff.mpr ⟨queried, same⟩
      have tight :=
        (exists_locate_iff_isTight direct valid).mp ⟨location, located⟩
      rw [direct, tight] at narrow
      simp at narrow
  · intro query valid direct
    exact exists_locate_iff_isTight direct valid

/--
A blank behind the root and a name of one blank beyond ASCII make direct queries
that are reported as not singular.
-/
theorem locate_direct_notSingular :
    (Query.read? "$ .a" = some ⟨[.children [.member "a"]]⟩ ∧
      locate "$ .a" = .error (.notSingular "$ .a")) ∧
    (Query.read? "$.\u00a0.a" =
        some ⟨[.children [.member "\u00a0"], .children [.member "a"]]⟩ ∧
      locate "$.\u00a0.a" = .error (.notSingular "$.\u00a0.a")) :=
  ⟨⟨rfl, rfl⟩, rfl, rfl⟩

end Path

end Stencil
