import Stencil.Path.Address
import Stencil.Proofs.Query.Inversion
import Stencil.Proofs.TagTable.Writing

/-!
# Canonical texts as queries

A query reads the canonical text of a location and picks what the location
leads to.  There are two exceptions: a name that is written behind a dot though
it holds a dollar sign, and an index beyond the integers of queries.  A query
stops in front of such a segment or inside it, and then the text is no query.
-/

namespace Stencil

namespace Segment

/-- The segment of a query that picks what this one leads to. -/
def toQuery : Segment → QuerySegment
  | .member name => .children [.member name]
  | .index position => .children [.index position]

/-- Whether a query reads the canonical text of a segment. -/
def isQueryable : Segment → Bool
  | .member name => !(isIdentifier name.toList && name.toList.contains '$')
  | .index position => position ≤ Query.integerBound

end Segment

namespace Location

/-- Whether a query reads the canonical text of a location. -/
def isQueryable (location : Location) : Bool :=
  location.all Segment.isQueryable

end Location

namespace Query

/-! ## Names behind a dot -/

theorem isNamePart_of_isIdentifierPart
    {character : Char}
    (part : isIdentifierPart character = true)
    (other : character ≠ '$') :
    isNamePart character = true :=
  forall_isIdentifierPart
    (fun character => character ≠ '$' → isNamePart character = true)
    (by decide) part other

theorem isNameStart_of_isIdentifierStart
    {character : Char}
    (start : isIdentifierStart character = true)
    (other : character ≠ '$') :
    isNameStart character = true := by
  have part : isIdentifierPart character = true := by
    simp [isIdentifierPart, start]
  exact
    forall_isIdentifierPart
      (fun character => isIdentifierStart character = true →
        character ≠ '$' → isNameStart character = true)
      (by decide) part start other

/-- A name behind a dot is read up to the first dollar sign. -/
theorem readName_run
    {first : Char} {run rest : List Char}
    (identifier : isIdentifier (first :: run) = true)
    (plain : '$' ∉ first :: run)
    (ends : EndsRun isNamePart rest) :
    readName (first :: run ++ rest) =
      some (String.ofList (first :: run), rest) := by
  have inside : ∀ character ∈ run, isNamePart character = true := by
    intro character member
    apply isNamePart_of_isIdentifierPart
    · exact isIdentifierPart_of_mem identifier (List.mem_cons_of_mem _ member)
    · rintro rfl
      exact plain (List.mem_cons_of_mem _ member)
  have start : isNameStart first = true := by
    simp only [isIdentifier, Bool.and_eq_true] at identifier
    apply isNameStart_of_isIdentifierStart identifier.1
    rintro rfl
    exact plain List.mem_cons_self
  rw [List.cons_append, readName, start, takeWhile_run inside ends,
    dropWhile_run inside ends]
  rfl

theorem readName_identifier
    {name rest : List Char}
    (identifier : isIdentifier name = true)
    (plain : '$' ∉ name)
    (follows : FollowsSegment rest) :
    readName (name ++ rest) = some (String.ofList name, rest) := by
  cases name with
  | nil => cases identifier
  | cons first run =>
      exact readName_run identifier plain
        (follows.endsRun (by decide) (by decide))

/-- What is left behind a name that holds a dollar sign begins with one. -/
theorem readName_dollar
    {name : List Char}
    (identifier : isIdentifier name = true)
    (dollar : '$' ∈ name)
    (rest : List Char) :
    ∀ read ∈ readName (name ++ rest), read.2.head? = some '$' := by
  rcases List.eq_append_cons_of_mem dollar with ⟨run, behind, rfl, plain⟩
  rw [List.append_assoc, List.cons_append]
  intro read member
  cases run with
  | nil =>
      rw [List.nil_append, readName] at member
      cases member
  | cons first run =>
      have start : isIdentifier (first :: run) = true := by
        simp only [List.cons_append, isIdentifier, Bool.and_eq_true,
          List.all_append] at identifier ⊢
        exact ⟨identifier.1, identifier.2.1⟩
      have ends : EndsRun isNamePart ('$' :: (behind ++ rest)) := by
        simp [EndsRun, isNamePart, isNameStart, Numeral.isDigit]
      rw [readName_run start plain ends] at member
      rcases Option.some.inj member with rfl
      rfl

/-! ## Indices -/

/-- Only the digits of zero begin with the digit zero. -/
theorem eq_zero_of_head_decimal (position : Nat) :
    (Numeral.decimal position).head? = some '0' → position = 0 := by
  induction position using Nat.strongRecOn with
  | ind position ih =>
      intro head
      by_cases small : position < 10
      · rw [Numeral.decimal, Nat.toDigits_of_lt_base small] at head
        exact Nat.digitChar_eq_zero.mp (Option.some.inj head)
      · have large : 10 ≤ position := Nat.le_of_not_lt small
        have shorter : position / 10 < position := by omega
        rw [Numeral.decimal, Nat.toDigits_of_base_le (by decide) large] at head
        have front := ih (position / 10) shorter
        rcases exists_decimal_eq_cons (position / 10) with
          ⟨first, behind, digits, _⟩
        rw [digits] at front
        rw [Numeral.decimal] at digits
        rw [digits] at head
        have leading : position / 10 = 0 := front head
        omega

theorem readNatural_decimal
    (position : Nat)
    {rest : List Char}
    (ends : EndsRun Numeral.isDigit rest) :
    readNatural (Numeral.decimal position ++ rest) =
      if position ≤ integerBound then some (position, rest) else none := by
  by_cases zero : position = 0
  · subst zero
    rfl
  · have inside := decimal_inside position
    rw [readNatural, takeWhile_run inside ends, dropWhile_run inside ends,
      Numeral.natural?_decimal]
    · by_cases small : position ≤ integerBound
      · simp [small, Option.filter]
      · simp [small, Option.filter]
    · intro behind equal
      rcases exists_decimal_eq_cons position with ⟨first, digits, written, _⟩
      rw [written] at equal
      rcases List.cons.inj equal with ⟨rfl, _⟩
      exact zero (eq_zero_of_head_decimal position (by rw [written]; rfl))

theorem readInteger_decimal
    (position : Nat)
    {rest : List Char}
    (ends : EndsRun Numeral.isDigit rest) :
    readInteger (Numeral.decimal position ++ rest) =
      if position ≤ integerBound then some ((position : Int), rest)
      else none := by
  have natural := readNatural_decimal position ends
  rcases exists_decimal_eq_cons position with ⟨first, behind, digits, digit⟩
  rw [digits, List.cons_append] at natural ⊢
  rw [readInteger_of_ne (ne_of_holds digit (by decide)), natural]
  by_cases small : position ≤ integerBound
  · simp [small]
  · simp [small]

/-! ## One segment -/

theorem skipSpace_of_not_isSpace
    {first : Char} (ink : Value.isSpace first = false) (rest : List Char) :
    Value.skipSpace (first :: rest) = first :: rest := by
  rw [Value.skipSpace, List.dropWhile_cons, ink]
  rfl

theorem skipSpace_chars (segment : Segment) (rest : List Char) :
    Value.skipSpace (segment.chars ++ rest) = segment.chars ++ rest := by
  have ends : EndsRun Value.isSpace (segment.chars ++ rest) :=
    (segment.followsSegment_chars rest).endsRun (by decide) (by decide)
  have nothing :
      ∀ character ∈ ([] : List Char), Value.isSpace character = true := by
    simp
  exact dropWhile_run nothing ends

theorem readSegment_dotted
    {name rest : List Char}
    (identifier : isIdentifier name = true)
    (fuel : Nat) :
    readSegment (fuel + 1) ('.' :: (name ++ rest)) =
      (readName (name ++ rest)).map fun read =>
        (.children [.member read.1], read.2) := by
  cases name with
  | nil => cases identifier
  | cons first run =>
      have dot : first ≠ '.' := by
        rintro rfl
        simp [isIdentifier, isIdentifierStart] at identifier
      have star : first ≠ '*' := by
        rintro rfl
        simp [isIdentifier, isIdentifierStart] at identifier
      simp [readSegment, dot, star]

theorem readSegment_quoted (name rest : List Char) (fuel : Nat) :
    readSegment (fuel + 3) ('[' :: (Value.quoted name ++ ']' :: rest)) =
      some (.children [.member (String.ofList name)], rest) := by
  have text := readText_quoted name (']' :: rest)
  have bracket : Value.skipSpace (']' :: rest) = ']' :: rest :=
    skipSpace_of_not_isSpace (by decide) rest
  have quotation :
      Value.skipSpace (Value.quoted name ++ ']' :: rest) =
        Value.quoted name ++ ']' :: rest :=
    skipSpace_of_not_isSpace (by decide) _
  have selector :
      readSelector (fuel + 1) (Value.quoted name ++ ']' :: rest) =
        some (.member (String.ofList name), ']' :: rest) := by
    simp only [Value.quoted, List.cons_append] at text ⊢
    rw [readSelector_of_ne (by decide) (by decide), text]
  simp [readSegment, quotation, readSelectors, selector, bracket]

theorem readPositions_decimal (position : Nat) (rest : List Char) :
    readPositions (Numeral.decimal position ++ ']' :: rest) =
      if position ≤ integerBound then some (.index position, ']' :: rest)
      else none := by
  have integer := readInteger_decimal position (endsRun_isDigit_bracket rest)
  have bracket : Value.skipSpace (']' :: rest) = ']' :: rest :=
    skipSpace_of_not_isSpace (by decide) rest
  rw [readPositions, readBound, integer]
  by_cases small : position ≤ integerBound
  · simp [small, bracket]
  · rcases exists_decimal_eq_cons position with ⟨first, behind, digits, digit⟩
    have colon : first ≠ ':' := ne_of_holds digit (by decide)
    simp [small, digits, colon]

theorem readSegment_index (position : Nat) (rest : List Char) (fuel : Nat) :
    readSegment (fuel + 3)
        ('[' :: (Numeral.decimal position ++ ']' :: rest)) =
      if position ≤ integerBound then
        some (.children [.index position], rest)
      else none := by
  have text := Segment.readText_decimal position (']' :: rest)
  have positions := readPositions_decimal position rest
  have bracket : Value.skipSpace (']' :: rest) = ']' :: rest :=
    skipSpace_of_not_isSpace (by decide) rest
  rcases exists_decimal_eq_cons position with ⟨first, behind, digits, digit⟩
  have ink : Value.isSpace first = false :=
    forall_isIdentifierPart (fun other => Value.isSpace other = false)
      (by decide) (by simp [isIdentifierPart, digit])
  rw [digits, List.cons_append] at text positions ⊢
  have skipped :
      Value.skipSpace (first :: (behind ++ ']' :: rest)) =
        first :: (behind ++ ']' :: rest) :=
    skipSpace_of_not_isSpace ink _
  have selector :
      readSelector (fuel + 1) (first :: (behind ++ ']' :: rest)) =
        if position ≤ integerBound then some (.index position, ']' :: rest)
        else none := by
    rw [readSelector_of_ne (ne_of_holds digit (by decide))
      (ne_of_holds digit (by decide)), text, positions]
  by_cases small : position ≤ integerBound
  · rw [if_pos small] at selector ⊢
    simp [readSegment, skipped, readSelectors, selector, bracket]
  · rw [if_neg small] at selector ⊢
    simp [readSegment, skipped, readSelectors, selector]

/-- A query reads a segment that is queryable from its canonical text. -/
theorem readSegment_chars
    {segment : Segment}
    (queryable : segment.isQueryable = true)
    {rest : List Char}
    (follows : FollowsSegment rest)
    (fuel : Nat) :
    readSegment (fuel + 3) (segment.chars ++ rest) =
      some (segment.toQuery, rest) := by
  cases segment with
  | member name =>
      cases identifier : isIdentifier name.toList with
      | true =>
          have plain : '$' ∉ name.toList := by
            simpa [Segment.isQueryable, identifier] using queryable
          rw [Segment.chars_dotted identifier, List.cons_append,
            readSegment_dotted identifier,
            readName_identifier identifier plain follows,
            String.ofList_toList]
          rfl
      | false =>
          rw [Segment.chars_quoted identifier, List.cons_append,
            List.append_assoc, List.singleton_append, readSegment_quoted,
            String.ofList_toList]
          rfl
  | index position =>
      have small : position ≤ integerBound := by
        simpa [Segment.isQueryable] using queryable
      rw [Segment.chars, List.cons_append, List.append_assoc,
        List.singleton_append, readSegment_index, if_pos small]
      rfl

/-- Any other segment is not read, or only up to a dollar sign. -/
theorem readSegment_chars_of_not_isQueryable
    {segment : Segment}
    (unqueryable : segment.isQueryable = false)
    (rest : List Char) (fuel : Nat) :
    ∀ read ∈ readSegment (fuel + 3) (segment.chars ++ rest),
      read.2.head? = some '$' := by
  cases segment with
  | member name =>
      simp only [Segment.isQueryable, Bool.not_eq_false', Bool.and_eq_true,
        List.contains_iff_mem] at unqueryable
      rcases unqueryable with ⟨identifier, dollar⟩
      intro read member
      rw [Segment.chars_dotted identifier, List.cons_append,
        readSegment_dotted identifier] at member
      rcases Option.map_eq_some_iff.mp member with ⟨name, found, rfl⟩
      exact readName_dollar identifier dollar rest name found
  | index position =>
      have large : ¬position ≤ integerBound := by
        simpa [Segment.isQueryable] using unqueryable
      intro read member
      rw [Segment.chars, List.cons_append, List.append_assoc,
        List.singleton_append, readSegment_index, if_neg large] at member
      cases member

/-! ## Whole locations -/

theorem readSegments_dollar (fuel : Nat) (rest : List Char) :
    readSegments fuel ('$' :: rest) = ([], '$' :: rest) := by
  cases fuel with
  | zero => rfl
  | succ fuel =>
      have mark : Value.skipSpace ('$' :: rest) = '$' :: rest :=
        skipSpace_of_not_isSpace (by decide) rest
      have unread : readSegment fuel ('$' :: rest) = none := by
        cases fuel with
        | zero => rfl
        | succ fuel => simp [readSegment]
      rw [readSegments, mark, unread]

/-- A queryable location is read from its canonical text as it is. -/
theorem readSegments_flatMap
    {location : Location}
    (queryable : location.isQueryable = true)
    {fuel : Nat}
    (enough : location.length ≤ fuel) :
    readSegments (fuel + 3) (location.flatMap Segment.chars) =
      (location.map Segment.toQuery, []) := by
  induction location generalizing fuel with
  | nil => simp [readSegments, readSegment, Value.skipSpace]
  | cons segment location ih =>
      simp only [Location.isQueryable, List.all_cons, Bool.and_eq_true]
        at queryable
      cases fuel with
      | zero => cases enough
      | succ fuel =>
          have follows := Location.followsSegment_flatMap location
          have tail := ih queryable.2 (Nat.le_of_succ_le_succ enough)
          rw [List.flatMap_cons, readSegments, skipSpace_chars,
            readSegment_chars queryable.1 follows]
          simp [tail]

/-- Of the canonical text of any other location something is left unread. -/
theorem readSegments_flatMap_ne_nil
    {location : Location}
    (unqueryable : location.isQueryable = false)
    {fuel : Nat}
    (enough : location.length ≤ fuel) :
    (readSegments (fuel + 3) (location.flatMap Segment.chars)).2 ≠ [] := by
  induction location generalizing fuel with
  | nil => cases unqueryable
  | cons segment location ih =>
      cases fuel with
      | zero => cases enough
      | succ fuel =>
          rw [List.flatMap_cons, readSegments, skipSpace_chars]
          cases queryable : segment.isQueryable with
          | true =>
              have rest : Location.isQueryable location = false := by
                simpa [Location.isQueryable, queryable] using unqueryable
              have follows := Location.followsSegment_flatMap location
              rw [readSegment_chars queryable follows]
              exact ih rest (Nat.le_of_succ_le_succ enough)
          | false =>
              have stops :=
                readSegment_chars_of_not_isQueryable queryable
                  (location.flatMap Segment.chars) fuel
              cases read :
                  readSegment (fuel + 3)
                    (segment.chars ++ location.flatMap Segment.chars) with
              | none => simp [Segment.chars_ne_nil]
              | some found =>
                  rcases List.head?_eq_some_iff.mp (stops found read) with
                    ⟨behind, dollar⟩
                  simp [dollar, readSegments_dollar]

/-- A canonical text is a query exactly when its location is queryable. -/
theorem read?_text (location : Location) :
    read? location.text =
      if location.isQueryable then some ⟨location.map Segment.toQuery⟩
      else none := by
  have shorter := location.length_le_flatMap_chars
  have enough :
      location.length ≤
        10 * (location.flatMap Segment.chars).length + 7 := by
    omega
  rw [read?, Location.text, String.toList_ofList, Location.chars]
  simp only [fuelFor]
  cases queryable : location.isQueryable with
  | true =>
      rw [readSegments_flatMap queryable enough]
      rfl
  | false =>
      have left := readSegments_flatMap_ne_nil queryable enough
      split
      · next segments complete =>
          rw [complete] at left
          exact absurd rfl left
      · rfl

end Query

/-! ## What the query picks -/

theorem Value.position?_natCast (node : Value) (position : Nat) :
    node.position? position = node.item? position := by
  have forward : ¬((position : Int) < 0) := by omega
  have place (size : Int) :
      Slice.absolute size (position : Int) = position := by
    rw [Slice.absolute, if_neg forward]
  cases node with
  | array items =>
      simp only [Value.position?, Value.item?, Value.asItems?, place,
        if_neg forward, Int.toNat_natCast]
  | _ => rfl

theorem Segment.follow_toQuery (root node : Value) (segment : Segment) :
    segment.toQuery.follow root node = (node.child? segment).toList := by
  cases segment with
  | member name =>
      simp [toQuery, QuerySegment.follow, pickAll, Selector.pick, Value.child?]
  | index position =>
      simp [toQuery, QuerySegment.follow, pickAll, Selector.pick,
        Value.child?, Value.position?_natCast]

theorem followSegments_toQuery
    (root : Value) (nodes : List Value) (location : Location) :
    followSegments root nodes (location.map Segment.toQuery) =
      nodes.flatMap fun node => (node.at? location).toList := by
  induction location generalizing nodes with
  | nil => simp [followSegments]
  | cons segment location ih =>
      rw [List.map_cons, followSegments, ih, List.flatMap_assoc]
      congr 1
      funext node
      rw [Segment.follow_toQuery, Value.at?_cons]
      cases node.child? segment with
      | none => rfl
      | some child => simp

/-- The canonical text of a queryable location picks what the location leads to. -/
theorem Path.select_text (document : Value) (location : Location) :
    Path.select document location.text =
      if location.isQueryable then .ok (document.at? location).toList
      else .error (.malformed location.text) := by
  rw [Path.select, Query.read?_text]
  cases location.isQueryable with
  | true =>
      simp [Query.select, followSegments_toQuery]
  | false => rfl

end Stencil
