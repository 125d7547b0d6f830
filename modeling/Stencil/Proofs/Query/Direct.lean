import Stencil.Proofs.Query.Canonical

/-!
# Direct queries

A query is direct when each of its segments picks one child, by a name or by a
position counted from the front.  So a query that is not direct has a wildcard,
a slice, a filter, a negative position, several selectors in one segment or a
segment that descends.  What a direct segment was read from is a name behind a
dot, or a quoted name or a natural number in brackets.
-/

namespace Stencil

/-- Whether a selector picks one child, by a name or by a position from the front. -/
def Selector.isDirect : Selector → Bool
  | .member _ => true
  | .index position => 0 ≤ position
  | .wildcard | .slice _ | .filter _ => false

/-- Whether a segment picks one child of a node, and none of its further descendants. -/
def QuerySegment.isDirect : QuerySegment → Bool
  | .children [selector] => selector.isDirect
  | .children _ | .descendants _ => false

/-- Whether every segment of a query picks one child. -/
def Query.isDirect (query : Query) : Bool :=
  query.segments.all QuerySegment.isDirect

theorem Segment.isDirect_toQuery (segment : Segment) :
    segment.toQuery.isDirect = true := by
  cases segment with
  | member name => rfl
  | index position => exact decide_eq_true (Int.natCast_nonneg position)

theorem QuerySegment.exists_selector_of_isDirect
    {selectors : List Selector}
    (direct : (children selectors).isDirect = true) :
    ∃ selector, selectors = [selector] ∧ selector.isDirect = true := by
  rw [isDirect.eq_def] at direct
  split at direct
  · next selector same =>
      rcases QuerySegment.children.inj same with rfl
      exact ⟨selector, rfl, direct⟩
  · cases direct
  · cases direct

theorem QuerySegment.exists_toQuery_of_isDirect
    {segment : QuerySegment}
    (direct : segment.isDirect = true) :
    ∃ same : Segment, segment = same.toQuery := by
  cases segment with
  | descendants selectors => cases direct
  | children selectors =>
      rcases exists_selector_of_isDirect direct with ⟨selector, rfl, one⟩
      cases selector with
      | member name => exact ⟨.member name, rfl⟩
      | index position =>
          rcases Int.eq_ofNat_of_zero_le (of_decide_eq_true one) with
            ⟨place, rfl⟩
          exact ⟨.index place, rfl⟩
      | wildcard => cases one
      | slice bounds => cases one
      | filter condition => cases one

/-- The direct queries are those that follow the segments of a location. -/
theorem Query.isDirect_iff (query : Query) :
    query.isDirect = true ↔
      ∃ location : Location, query = ⟨location.map Segment.toQuery⟩ := by
  constructor
  · rcases query with ⟨segments⟩
    rw [isDirect, List.all_eq_true]
    intro direct
    induction segments with
    | nil => exact ⟨[], rfl⟩
    | cons segment segments ih =>
        rcases QuerySegment.exists_toQuery_of_isDirect
            (direct segment List.mem_cons_self) with ⟨same, rfl⟩
        rcases ih fun other member =>
            direct other (List.mem_cons_of_mem _ member) with
          ⟨location, equal⟩
        rcases Query.mk.inj equal with rfl
        exact ⟨same :: location, rfl⟩
  · rintro ⟨location, rfl⟩
    rw [isDirect, List.all_map, List.all_eq_true]
    intro segment _
    exact segment.isDirect_toQuery

namespace Query

/-! ## Names behind a dot -/

/-- Behind two dots stands a segment that descends. -/
theorem readSegment_dots
    {fuel : Nat} {characters behind : List Char} {segment : QuerySegment}
    (read :
      readSegment fuel ('.' :: '.' :: characters) = some (segment, behind)) :
    ∃ selectors, segment = .descendants selectors := by
  cases fuel with
  | zero => cases read
  | succ fuel =>
      rw [readSegment.eq_def] at read
      dsimp only at read
      split at read
      · rcases Prod.mk.inj (Option.some.inj read) with ⟨rfl, _⟩
        exact ⟨_, rfl⟩
      · rcases Option.map_eq_some_iff.mp read with ⟨_, _, equal⟩
        exact ⟨_, (Prod.mk.inj equal).1.symm⟩
      · rcases Option.map_eq_some_iff.mp read with ⟨_, _, equal⟩
        exact ⟨_, (Prod.mk.inj equal).1.symm⟩
      · next impossible => cases impossible
      · next single _ same =>
          exact absurd (List.cons.inj same).2.symm (single _)
      · next impossible => cases impossible
      · cases read

/-- A direct segment has neither a second dot nor a star behind its dot. -/
theorem head_of_readSegment_dot
    {fuel : Nat} {characters behind : List Char} {segment : QuerySegment}
    (direct : segment.isDirect = true)
    (read : readSegment fuel ('.' :: characters) = some (segment, behind)) :
    ∀ first ∈ characters.head?, first ≠ '.' ∧ first ≠ '*' := by
  intro first member
  rcases List.head?_eq_some_iff.mp member with ⟨rest, rfl⟩
  constructor
  · rintro rfl
    rcases readSegment_dots read with ⟨selectors, rfl⟩
    cases direct
  · rintro rfl
    cases fuel with
    | zero => cases read
    | succ fuel =>
        rw [readSegment] at read
        rcases Prod.mk.inj (Option.some.inj read) with ⟨rfl, rfl⟩
        cases direct

/-! ## Brackets -/

theorem readSelectors_ne_nil
    {fuel : Nat} {characters rest : List Char} {selectors : List Selector}
    (read : readSelectors fuel characters = some (selectors, rest)) :
    selectors ≠ [] := by
  rcases readSelectors_cases read with
    ⟨_, _, _, _, ⟨_, rfl⟩ | ⟨_, _, _, _, rfl⟩⟩
  · exact List.cons_ne_nil _ _
  · exact List.cons_ne_nil _ _

/-- Behind the only selector of a segment the bracket is closed. -/
theorem readSelectors_singleton
    {fuel : Nat} {characters rest : List Char} {selector : Selector}
    (read : readSelectors fuel characters = some ([selector], rest)) :
    ∃ fewer behind,
      readSelector fewer characters = some (selector, behind) ∧
        Value.skipSpace behind = ']' :: rest := by
  rcases readSelectors_cases read with
    ⟨fewer, first, behind, found, ⟨closes, single⟩ | ⟨_, others, _, further, several⟩⟩
  · rcases List.cons.inj single with ⟨rfl, _⟩
    exact ⟨fewer, behind, found, closes⟩
  · have none : others = [] := (List.cons.inj several).2.symm
    exact absurd none (readSelectors_ne_nil further)

/-- An integer that is no negative one is read as a natural number. -/
theorem readNatural_of_readInteger
    {characters behind : List Char} {position : Nat}
    (read : readInteger characters = some ((position : Int), behind)) :
    readNatural characters = some (position, behind) := by
  rw [readInteger.eq_def] at read
  split at read
  · split at read
    · next value _ _ =>
        split at read
        · cases read
        · next positive =>
            have negative := (Prod.mk.inj (Option.some.inj read)).1
            omega
    · cases read
  · rcases Option.map_eq_some_iff.mp read with ⟨⟨value, _⟩, found, equal⟩
    rcases Prod.mk.inj equal with ⟨same, rfl⟩
    rcases Int.ofNat.inj same with rfl
    exact found

/-- A direct position is a natural number, with no colon behind it. -/
theorem readPositions_direct
    {characters behind : List Char} {selector : Selector}
    (direct : selector.isDirect = true)
    (read : readPositions characters = some (selector, behind)) :
    ∃ position : Nat, selector = .index position ∧
      readNatural characters = some (position, behind) := by
  rw [readPositions] at read
  split at read
  · simp only at read
    split at read
    · rcases Prod.mk.inj (Option.some.inj read) with ⟨rfl, rfl⟩
      cases direct
    · rcases Prod.mk.inj (Option.some.inj read) with ⟨rfl, rfl⟩
      cases direct
  · rcases Option.map_eq_some_iff.mp read with ⟨⟨place, _⟩, found, equal⟩
    rcases Prod.mk.inj equal with ⟨rfl, rfl⟩
    rcases Int.eq_ofNat_of_zero_le (of_decide_eq_true direct) with
      ⟨position, rfl⟩
    exact ⟨position, rfl, readNatural_of_readInteger found⟩

/-- A direct selector was read from a name in quotation marks or a natural number. -/
theorem readSelector_direct
    {fuel : Nat} {characters behind : List Char} {selector : Selector}
    (direct : selector.isDirect = true)
    (read : readSelector fuel characters = some (selector, behind)) :
    (∃ quote rest fewer name,
      (quote = '\'' ∨ quote = '"') ∧
        characters = quote :: rest ∧
        readQuoted quote fewer rest = some (name, behind)) ∨
      ∃ position : Nat,
        readNatural characters = some (position, behind) := by
  cases fuel with
  | zero => cases read
  | succ fuel =>
      cases characters with
      | nil => cases read
      | cons first rest =>
          by_cases quotation : first = '\'' ∨ first = '"'
          · rcases readSelector_quotation quotation read with
              ⟨fewer, name, _, named⟩
            exact Or.inl ⟨first, rest, fewer, name, quotation, rfl, named⟩
          · right
            have star : first ≠ '*' := by
              rintro rfl
              rw [readSelector] at read
              rcases Prod.mk.inj (Option.some.inj read) with ⟨rfl, rfl⟩
              cases direct
            have filter : first ≠ '?' := by
              rintro rfl
              rw [readSelector] at read
              rcases Option.map_eq_some_iff.mp read with ⟨_, _, equal⟩
              rcases Prod.mk.inj equal with ⟨rfl, rfl⟩
              cases direct
            rw [readSelector_of_ne star filter, readText_eq_none quotation]
              at read
            rcases readPositions_direct direct read with
              ⟨position, _, natural⟩
            exact ⟨position, natural⟩

end Query

end Stencil
