import Stencil.Proofs.Path.Plain
import Stencil.Proofs.Path.Rereading
import Stencil.Proofs.Query.Canonical
import Stencil.Proofs.TagTable.Reading

/-!
# Where singular paths and queries overlap

A text may be read as a singular path and as a query.  Both readers stop at the
same places, segment by segment: the blanks of queries are blanks, a number
with superfluous zeros is no index of a query, and a comma or a colon is no end
of a singular bracket.  So they find equally many segments, and equal ones
exactly when the text is plain.
-/

namespace Stencil

/-! ## Names behind a dot -/

namespace Location

/-- The run of name characters is the name of a query and the blanks behind it. -/
theorem nameCharacters_of_followsSegment
    {characters : List Char}
    (follows :
      FollowsSegment
        (Value.skipSpace (characters.dropWhile Query.isNamePart))) :
    characters.takeWhile isNameCharacter =
        characters.takeWhile Query.isNamePart ++
          (characters.dropWhile Query.isNamePart).takeWhile Value.isSpace ∧
      characters.dropWhile isNameCharacter =
        Value.skipSpace (characters.dropWhile Query.isNamePart) := by
  have ends :
      EndsRun isNameCharacter
        (Value.skipSpace (characters.dropWhile Query.isNamePart)) :=
    follows.endsRun (by decide) (by decide)
  have nothing :
      ∀ character ∈ ([] : List Char), isNameCharacter character = true := by
    simp
  constructor
  · rw [← takeWhile_append_takeWhile_of_imp isNameCharacter_of_isNamePart,
      ← takeWhile_append_takeWhile_of_imp isNameCharacter_of_isSpace
        (characters.dropWhile Query.isNamePart)]
    have stops := takeWhile_run nothing ends
    rw [List.nil_append, Value.skipSpace] at stops
    rw [stops, List.append_nil]
  · rw [← dropWhile_dropWhile_of_imp isNameCharacter_of_isNamePart,
      ← dropWhile_dropWhile_of_imp isNameCharacter_of_isSpace
        (characters.dropWhile Query.isNamePart)]
    exact dropWhile_run nothing ends

end Location

namespace Path

/--
Behind a dot, the name of a singular path is that of a query without the blanks
around it, and the blanks of queries behind it are skipped.
-/
theorem readDotted_agrees
    {characters rest : List Char} {segment : Segment}
    (located : Location.readDotted characters = some (segment, rest))
    {fuel fewer : Nat} {behind : List Char}
    {queried : QuerySegment} {tail : List QuerySegment}
    (found :
      Query.readSegment fuel ('.' :: characters) = some (queried, behind))
    (read : Query.readSegments fewer behind = (tail, [])) :
    ∃ same : Segment,
      queried = same.toQuery ∧
        Query.readSegments fewer rest = (tail, []) ∧
        isPlainFrom none ('.' :: characters) =
          (decide (segment = same) && isPlainFrom none rest) := by
  have single : ∀ first ∈ characters.head?, first ≠ '.' ∧ first ≠ '*' := by
    intro first member
    have inside :=
      Location.isNameCharacter_head_of_readDotted located first member
    exact
      ⟨ne_of_holds inside (by decide), ne_of_holds inside (by decide)⟩
  rcases Query.readSegment_dot single found with ⟨rfl, rfl⟩
  rcases Location.readDotted_eq_some located with ⟨_, rfl, rfl⟩
  rcases Location.nameCharacters_of_followsSegment
      (Query.followsSegment_skipSpace read) with ⟨names, rests⟩
  have blank :
      ∀ character ∈
          (characters.dropWhile Query.isNamePart).takeWhile Value.isSpace,
        Text.isBlank character = true :=
    forall_mem_takeWhile_of_imp isBlank_of_isSpace _
  refine ⟨.member _, rfl, ?_, ?_⟩
  · rw [rests]
    exact Query.readSegments_skipSpace read
  · rw [isPlainFrom_dot, names, Text.trim_append blank,
      isPlainFrom_dropWhile (by decide) (by decide) (by decide), opensWithInk,
      Bool.eq_iff_iff]
    simp [String.ofList_inj]

end Path

/-! ## Brackets -/

/-- The blanks that queries do not skip begin no selector. -/
theorem Query.readSelector_of_isBlank
    {first : Char}
    (blank : Text.isBlank first = true)
    (fuel : Nat) (rest : List Char) :
    readSelector fuel (first :: rest) = none := by
  have other {mark : Char} (ink : Text.isBlank mark = false) :
      first ≠ mark :=
    ne_of_holds blank ink
  have quotation : ¬(first = '\'' ∨ first = '"') :=
    not_or.mpr ⟨other (by decide), other (by decide)⟩
  cases fuel with
  | zero => rfl
  | succ fuel =>
      rw [readSelector_of_ne (other (by decide)) (other (by decide)),
        readText_eq_none quotation,
        readPositions_eq_none (isDigit_of_isBlank blank) (other (by decide))
          (other (by decide))]

/-- The natural number of a query is an index, if no further digits follow it. -/
theorem Location.readIndex_of_readNatural
    {characters left : List Char} {position : Nat}
    (natural : Query.readNatural characters = some (position, left))
    (ends : EndsRun Numeral.isDigit left) :
    readIndex characters = some (.index position, left) := by
  rw [Query.readNatural.eq_def] at natural
  split at natural
  · next rest =>
      rcases Prod.mk.inj (Option.some.inj natural) with ⟨rfl, rfl⟩
      have inside :
          ∀ character ∈ ['0'], Numeral.isDigit character = true := by
        intro character member
        rw [List.mem_singleton.mp member]
        decide
      have run := takeWhile_run inside ends
      have tail := dropWhile_run inside ends
      rw [List.singleton_append] at run tail
      rw [readIndex, run, tail]
      rfl
  · rcases Option.map_eq_some_iff.mp natural with ⟨number, found, equal⟩
    rcases Prod.mk.inj equal with ⟨rfl, rfl⟩
    rcases Option.filter_eq_some_iff.mp found with ⟨digits, small⟩
    have fits : number < Numeral.countLimit :=
      Nat.lt_of_le_of_lt (of_decide_eq_true small) (by decide)
    rw [readIndex, digits, Option.filter_some, if_pos (decide_eq_true fits)]
    rfl

namespace Path

theorem isPlainFrom_trimStart (characters : List Char) :
    isPlainFrom none (Text.trimStart characters) =
      isPlainFrom none characters :=
  isPlainFrom_dropWhile (by decide) (by decide) (by decide) characters

/-- Where both readers come to an end, the query has one selector and the bracket is closed. -/
theorem closes_of_trimStart
    {characters rest behind : List Char}
    {selector : Selector} {selectors : List Selector}
    (trimmed : Text.trimStart characters = ']' :: rest)
    (ends :
      (Value.skipSpace characters = ']' :: behind ∧ selectors = [selector]) ∨
        ∃ further, Value.skipSpace characters = ',' :: further) :
    behind = rest ∧ selectors = [selector] := by
  rcases ends with ⟨closes, single⟩ | ⟨further, comma⟩
  · exact ⟨(skipSpace_of_trimStart trimmed closes (by decide)).2, single⟩
  · have same := (skipSpace_of_trimStart trimmed comma (by decide)).1
    cases same

/-- A query that reads a selector has skipped all blanks in front of it. -/
theorem skipSpace_eq_trimStart
    {fuel : Nat} {characters : List Char} {read : Selector × List Char}
    (found :
      Query.readSelector fuel (Value.skipSpace characters) = some read) :
    Value.skipSpace characters = Text.trimStart characters := by
  rw [← Text.trimStart_skipSpace]
  cases shape : Value.skipSpace characters with
  | nil => rfl
  | cons first rest =>
      rw [Location.trimStart_of_not_isBlank]
      rw [← Bool.not_eq_true]
      intro blank
      rw [shape, Query.readSelector_of_isBlank blank] at found
      cases found

/-- A name in brackets ends at the same mark for both readers. -/
theorem readSelector_agrees_quoted
    {quote : Char}
    (quotation : quote = '\'' ∨ quote = '"')
    {fuel : Nat} {characters content behind left : List Char}
    {selector : Selector}
    (located :
      Location.readQuotedName quote characters = some (content, behind))
    (found :
      Query.readSelector fuel (quote :: characters) = some (selector, left)) :
    ∃ name,
      selector = .member (String.ofList name) ∧
        left = behind ∧
        isPlainFrom none (quote :: characters) =
          (decide (content = name) && isPlainFrom none behind) := by
  rcases Query.readSelector_quotation quotation found with
    ⟨_, name, rfl, read⟩
  rcases readQuotedName_of_readQuoted quotation read with
    ⟨other, same, _, plain⟩
  rw [located] at same
  rcases Prod.mk.inj (Option.some.inj same) with ⟨rfl, rfl⟩
  refine ⟨name, rfl, rfl, ?_⟩
  rw [isPlainFrom_mark quotation, plain]

/-- A number in brackets is one index to both readers where the bracket closes behind it. -/
theorem readSelector_agrees_index
    {fuel : Nat} {first : Char} {characters behind left : List Char}
    (digit : Numeral.isDigit first = true)
    {segment : Segment} {selector : Selector}
    (located :
      Location.readIndex (first :: characters) = some (segment, behind))
    (found :
      Query.readSelector fuel (first :: characters) = some (selector, left))
    {rest : List Char}
    (trimmed : Text.trimStart behind = ']' :: rest)
    (ends : EndsRun Numeral.isDigit left) :
    ∃ position : Nat,
      selector = .index position ∧
        segment = .index position ∧
        left = behind ∧
        isPlainFrom none (first :: characters) =
          isPlainFrom none behind := by
  have plain :
      isPlainFrom none (first :: characters) = isPlainFrom none behind := by
    rcases Option.map_eq_some_iff.mp located with ⟨_, _, equal⟩
    rcases Prod.mk.inj equal with ⟨_, rfl⟩
    rw [isPlainFrom_dropWhile (by decide) (by decide) (by decide)]
  rcases Query.readSelector_digit digit found with
    ⟨position, left, natural, ⟨rfl, rfl⟩ | ⟨further, colon⟩⟩
  · rw [Location.readIndex_of_readNatural natural ends] at located
    rcases Prod.mk.inj (Option.some.inj located) with ⟨rfl, rfl⟩
    exact ⟨position, rfl, rfl, rfl, plain⟩
  · have stops := endsRun_of_skipSpace colon (by decide)
    rw [Location.readIndex_of_readNatural natural stops] at located
    rcases Prod.mk.inj (Option.some.inj located) with ⟨rfl, rfl⟩
    have same := (skipSpace_of_trimStart trimmed colon (by decide)).1
    cases same

/--
Between brackets both readers find a name or an index and close the bracket
behind it; a query that goes on behind a comma or a colon is not singular.
-/
theorem readBracketed_agrees
    {characters rest : List Char} {segment : Segment}
    (located : Location.readBracketed characters = some (segment, rest))
    {fuel : Nat} {behind : List Char} {queried : QuerySegment}
    (found :
      Query.readSegment fuel ('[' :: characters) = some (queried, behind)) :
    ∃ same : Segment,
      queried = same.toQuery ∧
        behind = rest ∧
        isPlainFrom none ('[' :: characters) =
          (decide (segment = same) && isPlainFrom none rest) := by
  rcases Query.readSegment_bracket found with ⟨_, selectors, rfl, several⟩
  rcases Query.readSelectors_cases several with
    ⟨fewer, selector, left, one, followed⟩
  have ends := followed.imp_right fun ⟨further, _, comma, _⟩ =>
    Exists.intro further comma
  rcases Location.readBracketed_eq_some located with ⟨_, read, trimmed⟩
  rw [skipSpace_eq_trimStart one] at one
  have inside :
      isPlainFrom none ('[' :: characters) =
        isPlainFrom none (Text.trimStart characters) := by
    rw [isPlainFrom_trimStart, isPlainFrom_cons (by decide) (by decide)]
  have outside (behind : List Char)
      (trimmed : Text.trimStart behind = ']' :: rest) :
      isPlainFrom none behind = isPlainFrom none rest := by
    rw [← isPlainFrom_trimStart, trimmed,
      isPlainFrom_cons (by decide) (by decide)]
  rw [inside]
  rcases Location.readSelector_cases read with
    ⟨quote, marked, content, quotation, shape, named, rfl⟩ |
      ⟨first, digits, digit, shape, indexed⟩
  · rw [shape] at one ⊢
    rcases readSelector_agrees_quoted quotation named one with
      ⟨name, rfl, rfl, plain⟩
    rcases closes_of_trimStart trimmed ends with ⟨rfl, rfl⟩
    refine ⟨.member (String.ofList name), rfl, rfl, ?_⟩
    rw [plain, outside _ trimmed, Bool.eq_iff_iff]
    simp [String.ofList_inj]
  · have stops : EndsRun Numeral.isDigit left := by
      rcases ends with ⟨closes, _⟩ | ⟨_, comma⟩
      · exact endsRun_of_skipSpace closes (by decide)
      · exact endsRun_of_skipSpace comma (by decide)
    rw [shape] at one indexed ⊢
    rcases readSelector_agrees_index digit indexed one trimmed stops with
      ⟨position, rfl, rfl, rfl, plain⟩
    rcases closes_of_trimStart trimmed ends with ⟨rfl, rfl⟩
    refine ⟨.index position, rfl, rfl, ?_⟩
    rw [plain, outside _ trimmed, decide_eq_true rfl, Bool.true_and]

/-! ## Whole paths -/

/--
One segment that both readers find in front of a text is the same segment
exactly when its spelling is plain, and both find further segments behind it.
-/
theorem readSegment_agrees
    {characters rest : List Char} {segment : Segment}
    (located : Location.readSegment characters = some (segment, rest))
    {fuel : Nat} {segments : List QuerySegment}
    (read : Query.readSegments fuel characters = (segments, [])) :
    ∃ (same : Segment) (fewer : Nat) (tail : List QuerySegment),
      segments = same.toQuery :: tail ∧
        Query.readSegments fewer rest = (tail, []) ∧
        isPlainFrom none characters =
          (decide (segment = same) && isPlainFrom none rest) := by
  rcases Query.readSegments_cases read with
    ⟨rfl, rfl⟩ | ⟨fewer, queried, behind, tail, rfl, found, further, rfl⟩
  · cases located
  · rw [Location.readSegment.eq_def] at located
    split at located
    · rw [Query.skipSpace_of_not_isSpace (by decide)] at found
      rcases readDotted_agrees located found further with
        ⟨same, rfl, onward, plain⟩
      exact ⟨same, fewer, tail, rfl, onward, plain⟩
    · rw [Query.skipSpace_of_not_isSpace (by decide)] at found
      rcases readBracketed_agrees located found with ⟨same, rfl, rfl, plain⟩
      exact ⟨same, fewer, tail, rfl, further, plain⟩
    · cases located

/-- A text that both readers read to its end names one location to both exactly when it is plain. -/
theorem readSegments_agree
    {bound : Nat} {characters : List Char} {location : Location}
    (located : Location.readSegments bound characters = some location)
    {fuel : Nat} {segments : List QuerySegment}
    (read : Query.readSegments fuel characters = (segments, [])) :
    ∃ queried : Location,
      segments = queried.map Segment.toQuery ∧
        isPlainFrom none characters = decide (location = queried) := by
  -- The singular reader leads; how deep the query may still nest is left open.
  fun_induction Location.readSegments bound characters
      generalizing location fuel segments with
  | case1 =>
      cases located
      rw [Query.readSegments_nil] at read
      rcases Prod.mk.inj read with ⟨rfl, _⟩
      exact ⟨[], rfl, rfl⟩
  | case2 => cases located
  | case3 => cases located
  | case4 bound characters _ segment rest found ih =>
      rcases Option.map_eq_some_iff.mp located with ⟨tail, onward, rfl⟩
      rcases readSegment_agrees found read with
        ⟨same, fewer, further, rfl, behind, plain⟩
      rcases ih onward behind with ⟨queried, rfl, tails⟩
      refine ⟨same :: queried, rfl, ?_⟩
      rw [plain, tails, Bool.eq_iff_iff]
      simp

/-! ## What both find -/

theorem toList_qualified_trimmed (path : String) :
    (qualified (Text.trimmed path)).toList =
      qualify (Text.trim path.toList) := by
  rw [qualified, Text.trimmed, String.toList_ofList, String.toList_ofList]

/--
A valid query that the singular grammar reads as a location is a location to
the query grammar too, and the same one exactly when the path is plain.
-/
theorem exists_toQuery_of_locate
    {path : String} {location : Location} {query : Query}
    (located : locate path = .ok location)
    (valid : Query.read? (qualified (Text.trimmed path)) = some query) :
    ∃ queried : Location,
      query = ⟨queried.map Segment.toQuery⟩ ∧
        isPlain path = decide (location = queried) := by
  rw [locate_eq_ok_iff] at located
  rcases Query.read?_eq_some valid with ⟨rest, root, read⟩
  rw [← toList_qualified_trimmed, root] at located
  rcases readSegments_agree located read with ⟨queried, same, plain⟩
  refine ⟨queried, congrArg Query.mk same, ?_⟩
  rw [isPlain, root, isPlainFrom_cons (by decide) (by decide), plain]

/--
Let a path name a location and be a valid query when it is trimmed and
qualified by the root.  Then the query is singular, and it picks from every
document what the location leads to exactly when the path is plain.
-/
theorem select_eq_at?_iff_isPlain
    {path : String} {location : Location} {query : Query}
    (located : locate path = .ok location)
    (valid : Query.read? (qualified (Text.trimmed path)) = some query) :
    (∃ queried : Location,
      ∀ document,
        select document (qualified (Text.trimmed path)) =
          .ok (document.at? queried).toList) ∧
    ((∀ document,
      select document (qualified (Text.trimmed path)) =
        .ok (document.at? location).toList) ↔
      isPlain path = true) := by
  rcases exists_toQuery_of_locate located valid with ⟨queried, rfl, plain⟩
  have picks (document : Value) :
      select document (qualified (Text.trimmed path)) =
        .ok (document.at? queried).toList := by
    rw [select, valid]
    simp [Query.select, followSegments_toQuery]
  refine ⟨⟨queried, picks⟩, ?_⟩
  rw [plain, decide_eq_true_iff, Location.eq_iff_forall_at?]
  constructor
  · intro same document
    -- One node at most is picked, so that equal lists hold equal nodes.
    have lists := (same document).symm.trans (picks document)
    simpa using congrArg List.head? (Except.ok.inj lists)
  · intro same document
    rw [picks, same]

/-- Blanks around segments and an escaped quotation mark leave a path plain. -/
theorem select_padded :
    locate "a .b[ 'it\\'s' ]" =
        .ok [.member "a", .member "b", .member "it's"] ∧
      isPlain "a .b[ 'it\\'s' ]" = true ∧
      select
          (.object
            [("a", .object [("b", .object [("it's", .bool true)])])])
          (qualified (Text.trimmed "a .b[ 'it\\'s' ]")) =
        .ok [.bool true] := by
  have located :
      locate "a .b[ 'it\\'s' ]" =
        .ok [.member "a", .member "b", .member "it's"] :=
    rfl
  have valid :
      (Query.read?
        (qualified (Text.trimmed "a .b[ 'it\\'s' ]"))).isSome = true := by
    decide +kernel
  have plain : isPlain "a .b[ 'it\\'s' ]" = true := rfl
  rcases Option.isSome_iff_exists.mp valid with ⟨query, read⟩
  exact
    ⟨located, plain, (select_eq_at?_iff_isPlain located read).2.mpr plain _⟩

/--
The escape of a backspace and a blank beyond ASCII behind a dot are spellings
that both readers take, and they find different names.
-/
theorem select_elsewhere :
    (locate "$[\"\\b\"]" = .ok [.member "b"] ∧
      (Value.object [("b", .bool true)]).at? [.member "b"] =
        some (.bool true) ∧
      select (.object [("b", .bool true)])
          (qualified (Text.trimmed "$[\"\\b\"]")) =
        .ok []) ∧
    (locate ".\u00a0a" = .ok [.member "a"] ∧
      (Value.object [("a", .bool true)]).at? [.member "a"] =
        some (.bool true) ∧
      select (.object [("a", .bool true)])
          (qualified (Text.trimmed ".\u00a0a")) =
        .ok []) :=
  ⟨⟨rfl, rfl, select_text _ [.member "\x08"]⟩, rfl, rfl, rfl⟩

end Path

end Stencil
