import Stencil.Path.Address
import Stencil.Proofs.Path.Inversion

/-!
# Canonical texts as singular paths

The canonical text of a location is a singular path again.  Reading it yields
the location with every misread control replaced by the letters of its escape,
as long as the indices fit sixty-four bits; the faithful locations are those
that come back as they were.  Every location that a path names has indices
that fit, and what is read back from a canonical text is faithful.
-/

namespace Stencil

/-! ## Faithful segments -/

theorem isNameCharacter_of_isIdentifierPart
    {character : Char}
    (part : isIdentifierPart character = true) :
    Location.isNameCharacter character = true :=
  forall_isIdentifierPart (fun other => Location.isNameCharacter other = true)
    (by decide) part

theorem isMisread_of_isIdentifierPart
    {character : Char}
    (part : isIdentifierPart character = true) :
    isMisread character = false :=
  forall_isIdentifierPart (fun other => isMisread other = false)
    (by decide) part

theorem flatMap_reread_of_isIdentifier
    {name : List Char}
    (identifier : isIdentifier name = true) :
    name.flatMap reread = name := by
  rw [flatMap_reread_eq_self_iff]
  intro character member
  exact isMisread_of_isIdentifierPart
    (isIdentifierPart_of_mem identifier member)

theorem trim_of_isIdentifier
    {name : List Char}
    (identifier : isIdentifier name = true) :
    Text.trim name = name := by
  apply Text.trim_eq_self
  · intro first member
    exact isBlank_of_isIdentifierPart
      (isIdentifierPart_of_mem identifier (List.mem_of_mem_head? member))
  · intro last member
    exact isBlank_of_isIdentifierPart
      (isIdentifierPart_of_mem identifier (List.mem_of_mem_getLast? member))

namespace Segment

/-- The segment that a singular path reads where this one is written. -/
def reread : Segment → Segment
  | .member name => .member (String.ofList (name.toList.flatMap Stencil.reread))
  | .index position => .index position

/-- Whether an index of a segment fits sixty-four bits. -/
def isBounded : Segment → Bool
  | .member _ => true
  | .index position => position < Numeral.countLimit

/-- Whether a singular path reads a segment back as it was. -/
def isFaithful : Segment → Bool
  | .member name => name.toList.all fun character => !isMisread character
  | .index position => position < Numeral.countLimit

theorem isFaithful_iff (segment : Segment) :
    segment.isFaithful = true ↔
      segment.isBounded = true ∧ segment.reread = segment := by
  cases segment with
  | member name =>
      have texts :
          String.ofList (name.toList.flatMap Stencil.reread) = name ↔
            name.toList.flatMap Stencil.reread = name.toList := by
        rw [← String.toList_inj, String.toList_ofList]
      rw [reread, member.injEq, texts, flatMap_reread_eq_self_iff]
      simp [isFaithful, isBounded]
  | index position => simp [isFaithful, isBounded, reread]

theorem isFaithful_reread
    {segment : Segment}
    (bounded : segment.isBounded = true) :
    segment.reread.isFaithful = true := by
  cases segment with
  | member name =>
      simp only [reread, isFaithful, String.toList_ofList, List.all_eq_true]
      intro character member
      rcases List.mem_flatMap.mp member with ⟨_, _, inside⟩
      rw [not_isMisread_of_mem_reread inside]
      rfl
  | index position => exact bounded

theorem isBlank_getLast_chars (segment : Segment) :
    ∀ last ∈ segment.chars.getLast?, Text.isBlank last = false := by
  intro last member
  cases segment with
  | member name =>
      cases identifier : isIdentifier name.toList with
      | true =>
          rw [chars_dotted identifier] at member
          rcases List.mem_cons.mp (List.mem_of_mem_getLast? member)
            with rfl | inside
          · decide
          · exact isBlank_of_isIdentifierPart
              (isIdentifierPart_of_mem identifier inside)
      | false =>
          rw [chars_quoted identifier, ← List.cons_append,
            List.getLast?_concat] at member
          rcases Option.some.inj member with rfl
          decide
  | index position =>
      rw [chars, ← List.cons_append, List.getLast?_concat] at member
      rcases Option.some.inj member with rfl
      decide

end Segment

namespace Location

/-! ## Reading one segment -/

theorem readDotted_identifier
    {name : String} {rest : List Char}
    (identifier : isIdentifier name.toList = true)
    (follows : FollowsSegment rest) :
    readDotted (name.toList ++ rest) = some (.member name, rest) := by
  have inside :
      ∀ character ∈ name.toList, isNameCharacter character = true :=
    fun _ member =>
      isNameCharacter_of_isIdentifierPart
        (isIdentifierPart_of_mem identifier member)
  have ends : EndsRun isNameCharacter rest :=
    follows.endsRun (by decide) (by decide)
  have nonempty : name.toList.isEmpty = false := by
    cases characters : name.toList with
    | nil => simp [characters, isIdentifier] at identifier
    | cons first behind => rfl
  rw [readDotted, takeWhile_run inside ends, dropWhile_run inside ends,
    trim_of_isIdentifier identifier, nonempty, String.ofList_toList]
  rfl

theorem readSelector_quotation
    {quote : Char}
    (quotation : quote = '\'' ∨ quote = '"')
    (rest : List Char) :
    readSelector (quote :: rest) =
      (readQuotedName quote rest).map fun read =>
        (.member (String.ofList read.1), read.2) := by
  rcases quotation with rfl | rfl
  · rfl
  · rfl

theorem readSelector_quoted (name : String) (rest : List Char) :
    readSelector (Value.quoted name.toList ++ rest) =
      some (.member (String.ofList (name.toList.flatMap Stencil.reread)),
        rest) := by
  rw [Value.quoted, List.append_assoc, List.singleton_append,
    List.cons_append, readSelector_quotation (Or.inr rfl),
    readQuotedName_quoted]
  rfl

theorem readSelector_digit
    {first : Char} {rest : List Char}
    (digit : Numeral.isDigit first = true) :
    readSelector (first :: rest) = readIndex (first :: rest) := by
  rw [readSelector]
  · intro behind equal
    exact ne_of_holds digit (by decide) (List.cons.inj equal).1
  · intro behind equal
    exact ne_of_holds digit (by decide) (List.cons.inj equal).1

theorem readIndex_decimal
    (position : Nat)
    {rest : List Char}
    (ends : EndsRun Numeral.isDigit rest) :
    readIndex (Numeral.decimal position ++ rest) =
      if position < Numeral.countLimit then some (.index position, rest)
      else none := by
  have inside := decimal_inside position
  rw [readIndex, takeWhile_run inside ends, dropWhile_run inside ends,
    Numeral.natural?_decimal]
  by_cases bounded : position < Numeral.countLimit
  · simp [bounded, Option.filter]
  · simp [bounded, Option.filter]

theorem readSegment_index (position : Nat) (rest : List Char) :
    readSegment (Segment.chars (.index position) ++ rest) =
      if position < Numeral.countLimit then some (.index position, rest)
      else none := by
  have read := readIndex_decimal position (endsRun_isDigit_bracket rest)
  rcases exists_decimal_eq_cons position with ⟨first, behind, digits, digit⟩
  have ink : Text.isBlank first = false :=
    isBlank_of_isIdentifierPart (by simp [isIdentifierPart, digit])
  rw [digits, List.cons_append] at read
  simp only [Segment.chars, digits, List.cons_append, List.append_assoc,
    List.nil_append, readSegment, readBracketed, trimStart_of_not_isBlank ink,
    readSelector_digit digit, read]
  by_cases bounded : position < Numeral.countLimit
  · simp only [bounded, if_true]
    rfl
  · simp only [bounded, if_false]

/-- A segment is read from its canonical text, with its misread controls replaced. -/
theorem readSegment_chars
    (segment : Segment)
    {rest : List Char}
    (follows : FollowsSegment rest) :
    readSegment (segment.chars ++ rest) =
      if segment.isBounded then some (segment.reread, rest) else none := by
  cases segment with
  | member name =>
      cases identifier : isIdentifier name.toList with
      | true =>
          simp only [Segment.chars_dotted identifier, List.cons_append,
            readSegment, readDotted_identifier identifier follows,
            Segment.isBounded, Segment.reread, if_true,
            flatMap_reread_of_isIdentifier identifier, String.ofList_toList]
      | false =>
          have quotation :
              Text.trimStart (Value.quoted name.toList ++ ']' :: rest) =
                Value.quoted name.toList ++ ']' :: rest :=
            trimStart_of_not_isBlank (by decide)
          have bracket : Text.trimStart (']' :: rest) = ']' :: rest :=
            trimStart_of_not_isBlank (by decide)
          simp only [Segment.chars_quoted identifier, List.cons_append,
            List.append_assoc, List.nil_append, readSegment, readBracketed,
            quotation, readSelector_quoted, bracket]
          rfl
  | index position =>
      rw [readSegment_index]
      simp [Segment.isBounded, Segment.reread]

/-! ## Reading whole locations -/

/-- Whether every index of a location fits sixty-four bits. -/
def isBounded (location : Location) : Bool :=
  location.all Segment.isBounded

/-- The location that a singular path reads where this one is written. -/
def reread (location : Location) : Location :=
  location.map Segment.reread

/-- Whether a singular path reads a location back as it was. -/
def isFaithful (location : Location) : Bool :=
  location.all Segment.isFaithful

theorem readSegments_flatMap
    {location : Location} {fuel : Nat}
    (bounded : location.isBounded = true)
    (enough : location.length ≤ fuel) :
    readSegments fuel (location.flatMap Segment.chars) =
      some location.reread := by
  induction location generalizing fuel with
  | nil =>
      rw [List.flatMap_nil, readSegments]
      rfl
  | cons segment location ih =>
      simp only [isBounded, List.all_cons, Bool.and_eq_true] at bounded
      cases fuel with
      | zero => simp at enough
      | succ fuel =>
          have tail := ih bounded.2 (Nat.le_of_succ_le_succ enough)
          have read := readSegment_chars segment (followsSegment_flatMap location)
          rw [List.flatMap_cons, readSegments, read, bounded.1]
          · simp [tail, reread]
          · simp [Segment.chars_ne_nil]

theorem read?_chars
    {location : Location}
    (bounded : location.isBounded = true) :
    read? location.chars = some location.reread := by
  rw [chars, read?]
  exact readSegments_flatMap bounded (length_le_flatMap_chars location)

theorem isBounded_of_readIndex
    {characters rest : List Char} {segment : Segment}
    (read : readIndex characters = some (segment, rest)) :
    segment.isBounded = true := by
  rcases Option.map_eq_some_iff.mp read with ⟨position, found, equal⟩
  have small := (Option.filter_eq_some_iff.mp found).2
  rcases Prod.mk.inj equal with ⟨rfl, _⟩
  exact small

theorem isBounded_of_readSelector
    {characters rest : List Char} {segment : Segment}
    (read : readSelector characters = some (segment, rest)) :
    segment.isBounded = true := by
  rcases readSelector_cases read with
    ⟨_, _, _, _, _, _, rfl⟩ | ⟨_, _, _, _, indexed⟩
  · rfl
  · exact isBounded_of_readIndex indexed

theorem isBounded_of_readSegment
    {characters rest : List Char} {segment : Segment}
    (read : readSegment characters = some (segment, rest)) :
    segment.isBounded = true := by
  rw [readSegment.eq_def] at read
  split at read
  · rcases readDotted_eq_some read with ⟨_, rfl, _⟩
    rfl
  · rcases readBracketed_eq_some read with ⟨_, selected, _⟩
    exact isBounded_of_readSelector selected
  · cases read

theorem isBounded_of_readSegments
    {fuel : Nat} {characters : List Char} {location : Location}
    (read : readSegments fuel characters = some location) :
    location.isBounded = true := by
  fun_induction readSegments fuel characters generalizing location with
  | case1 =>
      cases read
      rfl
  | case2 => cases read
  | case3 => cases read
  | case4 fuel characters _ segment rest found ih =>
      rcases Option.map_eq_some_iff.mp read with ⟨tail, tailRead, rfl⟩
      simp only [isBounded, List.all_cons, Bool.and_eq_true]
      exact ⟨isBounded_of_readSegment found, ih tailRead⟩

theorem isBounded_of_read?
    {characters : List Char} {location : Location}
    (read : read? characters = some location) :
    location.isBounded = true := by
  rw [read?.eq_def] at read
  split at read
  · exact isBounded_of_readSegments read
  · cases read

/-! ## Faithful locations -/

theorem reread_eq_self_iff (location : Location) :
    location.reread = location ↔
      ∀ segment ∈ location, segment.reread = segment := by
  induction location with
  | nil => simp [reread]
  | cons segment location ih =>
      rw [reread, List.map_cons, List.cons.injEq, List.forall_mem_cons]
      exact and_congr_right fun _ => ih

/-- The faithful locations are those whose indices fit and that rereading leaves alone. -/
theorem isFaithful_iff (location : Location) :
    location.isFaithful = true ↔
      location.isBounded = true ∧ location.reread = location := by
  rw [isFaithful, isBounded, reread_eq_self_iff, List.all_eq_true,
    List.all_eq_true]
  constructor
  · intro faithful
    have parts (segment : Segment) (member : segment ∈ location) :=
      segment.isFaithful_iff.mp (faithful segment member)
    exact
      ⟨fun segment member => (parts segment member).1,
        fun segment member => (parts segment member).2⟩
  · rintro ⟨bounded, same⟩ segment member
    exact segment.isFaithful_iff.mpr
      ⟨bounded segment member, same segment member⟩

theorem isFaithful_reread
    {location : Location}
    (bounded : location.isBounded = true) :
    location.reread.isFaithful = true := by
  rw [isFaithful, reread, List.all_map, List.all_eq_true]
  intro segment member
  exact Segment.isFaithful_reread
    (List.all_eq_true.mp bounded segment member)

theorem trim_chars (location : Location) :
    Text.trim location.chars = location.chars := by
  apply Text.trim_eq_self
  · intro first member
    obtain rfl : '$' = first := by simpa [chars] using member
    decide
  · intro last member
    rcases List.eq_nil_or_concat location with rfl | ⟨parent, segment, rfl⟩
    · obtain rfl : '$' = last := by simpa [chars] using member
      decide
    · have shape :
          chars (parent ++ [segment]) =
            ('$' :: parent.flatMap Segment.chars) ++ segment.chars := by
        simp [chars]
      rw [List.concat_eq_append, shape, List.getLast?_append] at member
      cases final : segment.chars.getLast? with
      | none =>
          exact absurd (List.getLast?_eq_none_iff.mp final)
            segment.chars_ne_nil
      | some character =>
          rw [final] at member
          rcases Option.some.inj member with rfl
          exact segment.isBlank_getLast_chars character final

end Location

/-! ## Canonical texts as paths -/

namespace Path

theorem locate_eq_ok_iff (path : String) (location : Location) :
    locate path = .ok location ↔
      Location.read? (qualify (Text.trim path.toList)) = some location := by
  rw [locate, String.toList_ofList]
  split
  · next found => simp [found]
  · next found =>
      constructor
      · intro equal
        split at equal
        · cases equal
        · cases equal
      · intro read
        rw [found] at read
        cases read

theorem isBounded_of_locate
    {path : String} {location : Location}
    (located : locate path = .ok location) :
    location.isBounded = true :=
  Location.isBounded_of_read? ((locate_eq_ok_iff path location).mp located)

/-- The canonical text of a location names the location that is read back from it. -/
theorem locate_text
    {location : Location}
    (bounded : location.isBounded = true) :
    locate location.text = .ok location.reread := by
  rw [locate_eq_ok_iff, Location.text, String.toList_ofList,
    Location.trim_chars]
  exact Location.read?_chars bounded

/-- A canonical text names its own location exactly when the location is faithful. -/
theorem locate_text_eq_self_iff (location : Location) :
    locate location.text = .ok location ↔ location.isFaithful = true := by
  rw [Location.isFaithful_iff]
  constructor
  · intro located
    have bounded := isBounded_of_locate located
    rw [locate_text bounded] at located
    exact ⟨bounded, Except.ok.inj located⟩
  · rintro ⟨bounded, same⟩
    rw [locate_text bounded, same]

/-- A canonical text is its own canonical text exactly when its location is faithful. -/
theorem canonical_text_eq_self_iff
    {location : Location}
    (bounded : location.isBounded = true) :
    canonical location.text = .ok location.text ↔
      location.isFaithful = true := by
  rw [canonical, locate_text bounded, Except.map, Except.ok.injEq,
    Location.text_inj, Location.isFaithful_iff]
  exact ⟨fun same => ⟨bounded, same⟩, fun faithful => faithful.2⟩

end Path

end Stencil
