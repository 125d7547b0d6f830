import Stencil.Evaluation.Pipeline
import Stencil.Proofs.Evaluation.Running
import Stencil.Proofs.Number.Order
import Stencil.Proofs.Sorting
import Stencil.Proofs.Text.Counts

/-!
# The order of pipes

The ordinals of pipes are compared like numbers of a document: exactly within
the signed range, and by their nearest doubles as soon as one of the two is
beyond it.  Two ordinals of one double are then not told apart.  Where different
ordinals are told apart, pipes run in the order of their ordinals, those of one
ordinal in the order of the members, and with no ordinal repeated the order of
the members makes no difference.  Where ordinals are not told apart, pipes run in
that order exactly when no later one has a smaller ordinal of this kind.  That
takes a comparison that is total and transitive on them, which is all that sorting
asks for, or no more than twenty pipes, which are put in one after the other.
-/

namespace Stencil

namespace Number

theorem ofNat_of_lt {value : Nat} (small : value < Numeral.countLimit) :
    ∃ integer, ofNat value = .whole integer ∧ integer.value = value := by
  have lower : -(Numeral.integerLimit : Int) ≤ value := by omega
  have upper : (value : Int) < Numeral.countLimit := by exact_mod_cast small
  refine ⟨⟨value, lower, upper⟩, ?_, rfl⟩
  rw [ofNat, ofInt, dif_pos ⟨lower, upper⟩]

theorem toSigned?_ofNat {value : Nat} (small : value < Numeral.countLimit) :
    (ofNat value).toSigned? =
      if value < Numeral.integerLimit then some (value : Int) else none := by
  obtain ⟨integer, whole, equality⟩ := ofNat_of_lt small
  rw [whole]
  simp only [toSigned?, equality, Nat.cast_lt]

theorem toBinary64_ofNat {value : Nat} (small : value < Numeral.countLimit) :
    (ofNat value).toBinary64 = Binary64.ofInt value := by
  obtain ⟨integer, whole, equality⟩ := ofNat_of_lt small
  rw [whole, toBinary64, equality]

end Number

namespace PipeEntry

/-! ## Ordinals that are told apart -/

/-- Two ordinals, one of them beyond the signed range, that have one nearest double. -/
def Blurred (left right : PipeEntry) : Prop :=
  Numeral.integerLimit ≤ max left.ordinal right.ordinal ∧
    Binary64.ofInt left.ordinal = Binary64.ofInt right.ordinal

theorem Blurred.symm {left right : PipeEntry} (blurred : Blurred left right) :
    Blurred right left :=
  ⟨max_comm left.ordinal right.ordinal ▸ blurred.1, blurred.2.symm⟩

theorem order_eq_lt_iff
    {left right : PipeEntry}
    (leftSmall : left.ordinal < Numeral.countLimit)
    (rightSmall : right.ordinal < Numeral.countLimit) :
    order left right = .lt ↔ left.ordinal < right.ordinal ∧ ¬Blurred left right := by
  change (Number.ofNat left.ordinal).compare (Number.ofNat right.ordinal) = .lt ↔ _
  have leftSigned := Number.toSigned?_ofNat leftSmall
  have rightSigned := Number.toSigned?_ofNat rightSmall
  unfold Blurred
  rcases lt_or_ge (max left.ordinal right.ordinal) Numeral.integerLimit with within | beyond
  · obtain ⟨leftWithin, rightWithin⟩ := max_lt_iff.mp within
    rw [if_pos leftWithin] at leftSigned
    rw [if_pos rightWithin] at rightSigned
    rw [Number.compare_of_signed leftSigned rightSigned, compare_lt_iff_lt, Nat.cast_lt]
    simp [within.not_ge]
  · have unsigned : (Number.ofNat left.ordinal).toSigned? = none ∨
        (Number.ofNat right.ordinal).toSigned? = none := by
      rcases le_max_iff.mp beyond with leftBeyond | rightBeyond
      · exact .inl (leftSigned.trans (if_neg leftBeyond.not_gt))
      · exact .inr (rightSigned.trans (if_neg rightBeyond.not_gt))
    rw [Number.compare_of_not_signed unsigned, Number.toBinary64_ofNat leftSmall,
      Number.toBinary64_ofNat rightSmall, Binary64.compare, compare_lt_iff_lt,
      Binary64.rank_ofInt_lt_iff]
    simp [beyond]

theorem order_swap (left right : PipeEntry) :
    (order left right).swap = order right left :=
  Number.compare_swap (.ofNat left.ordinal) (.ofNat right.ordinal)

/-- Unless they are different and not told apart, ordinals are compared as they are. -/
theorem order_eq_compare
    {left right : PipeEntry}
    (leftSmall : left.ordinal < Numeral.countLimit)
    (rightSmall : right.ordinal < Numeral.countLimit)
    (apart : left.ordinal ≠ right.ordinal → ¬Blurred left right) :
    order left right = compare left.ordinal right.ordinal := by
  rcases lt_trichotomy left.ordinal right.ordinal with ascends | same | descends
  · rw [compare_lt_iff_lt.mpr ascends]
    exact (order_eq_lt_iff leftSmall rightSmall).mpr ⟨ascends, apart ascends.ne⟩
  · have level : order left right = order right left := by
      rw [order, order, same]
    rw [compare_eq_iff_eq.mpr same]
    exact Ordering.eq_eq_of_eq_swap (level.trans (order_swap left right).symm)
  · have behind : order right left = .lt :=
      (order_eq_lt_iff rightSmall leftSmall).mpr
        ⟨descends, fun blurred => apart descends.ne' blurred.symm⟩
    rw [compare_gt_iff_gt.mpr descends, ← order_swap, behind]
    rfl

/-- All different ordinals of pipes are told apart. -/
def ToldApart (entries : List PipeEntry) : Prop :=
  ∀ left ∈ entries, ∀ right ∈ entries,
    left.ordinal ≠ right.ordinal → ¬Blurred left right

/-- However they are sorted, pipes whose ordinals are told apart are sorted by ordinal. -/
theorem ToldApart.stablySorted
    {entries ordered : List PipeEntry}
    (apart : ToldApart entries)
    (small : ∀ entry ∈ entries, entry.ordinal < Numeral.countLimit)
    (sorts : Sorts order entries ordered) :
    StablySorted ordinal entries ordered :=
  .of_sorts
    (fun left held right present =>
      order_eq_compare (small left held) (small right present)
        (apart left held right present))
    sorts

/--
Put in one after the other, pipes are sorted by ordinal exactly when no later one is
smaller and not told apart.
-/
theorem stablySorted_iff
    {entries : List PipeEntry}
    (small : ∀ entry ∈ entries, entry.ordinal < Numeral.countLimit) :
    StablySorted ordinal entries (sorted order entries) ↔
      entries.Pairwise fun earlier later =>
        later.ordinal < earlier.ordinal → ¬Blurred earlier later := by
  constructor
  · intro sorts
    rw [List.pairwise_iff_forall_sublist]
    intro earlier later listed descends blurred
    have held : earlier ∈ entries := listed.subset (by simp)
    have present : later ∈ entries := listed.subset (by simp)
    -- Of these two ordinals none comes before the other, so their pipes keep their sequence.
    let keep (entry : PipeEntry) : Bool :=
      entry.ordinal = earlier.ordinal ∨ entry.ordinal = later.ordinal
    have stays : (sorted order entries).filter keep = entries.filter keep := by
      apply filter_sorted
      intro item itemHeld last lastHeld kept lastKept before
      obtain ⟨ascends, apart⟩ :=
        (order_eq_lt_iff (small item itemHeld) (small last lastHeld)).mp before
      simp only [keep, decide_eq_true_eq] at kept lastKept
      have lower : item.ordinal = later.ordinal := by omega
      have upper : last.ordinal = earlier.ordinal := by omega
      unfold Blurred at apart
      rw [lower, upper] at apart
      exact apart blurred.symm
    have sequence : [earlier, later].Sublist (sorted order entries) := by
      have chosen : [earlier, later].filter keep = [earlier, later] := by simp [keep]
      rw [← chosen]
      exact (stays ▸ listed.filter keep).trans List.filter_sublist
    have ascends := List.pairwise_iff_forall_sublist.mp sorts.ascending sequence
    omega
  · intro apart
    have agree : sorted order entries =
        sorted (fun left right => compare left.ordinal right.ordinal) entries := by
      apply sorted_congr
      refine apart.imp_of_mem ?_
      intro earlier later held present distinct
      rw [order_eq_lt_iff (small later present) (small earlier held), compare_lt_iff_lt]
      exact and_iff_left_of_imp fun descends blurred => distinct descends blurred.symm
    rw [agree]
    exact StablySorted.sorted_compare

/-- A comparison that is total and transitive on the pipes leaves one way to sort them. -/
theorem stablySorted_iff_of_sorts
    {entries ordered : List PipeEntry}
    (small : ∀ entry ∈ entries, entry.ordinal < Numeral.countLimit)
    (orders : OrdersOn order {entry | entry ∈ entries})
    (sorts : Sorts order entries ordered) :
    StablySorted ordinal entries ordered ↔
      entries.Pairwise fun earlier later =>
        later.ordinal < earlier.ordinal → ¬Blurred earlier later := by
  rw [sorts.eq_of_ordersOn orders (sorts_sorted order entries)]
  exact stablySorted_iff small

/-! ## Members that declare pipes -/

/-- Whether the name of a member starts with the marker. -/
def isMarked (member : String × Value) : Bool :=
  member.1.toList.head? = some '$'

theorem isMarked_iff
    {member : String × Value} :
    isMarked member = true ↔ ∃ written, member.1.toList = '$' :: written := by
  rw [isMarked, decide_eq_true_iff, List.head?_eq_some_iff]

/-- The pipe that a member declares, when it declares one. -/
def declared? (member : String × Value) : Option PipeEntry :=
  (ofMember member.1 member.2).toOption.join

theorem ofMembers_eq_ok_iff {pipes : List (String × Value)} {entries : List PipeEntry} :
    ofMembers pipes = .ok entries ↔
      (∀ member ∈ pipes, (ofMember member.1 member.2).isOk) ∧
        entries = pipes.filterMap declared? := by
  induction pipes generalizing entries with
  | nil =>
      simp only [ofMembers, Except.ok.injEq, List.filterMap_nil]
      exact ⟨fun equal => ⟨fun _ member => absurd member List.not_mem_nil, equal.symm⟩,
        fun equal => equal.2.symm⟩
  | cons member rest hypothesis =>
      obtain ⟨key, value⟩ := member
      rw [List.forall_mem_cons, ofMembers]
      cases first : ofMember key value with
      | error error => simp [Except.isOk, Except.toBool]
      | ok entry =>
          have declares : ((key, value) :: rest).filterMap declared? =
              entry.toList ++ rest.filterMap declared? := by
            have found : declared? (key, value) = entry := by
              simp [declared?, first, Except.toOption]
            cases entry <;> simp [found]
          rw [declares]
          cases others : ofMembers rest with
          | error error =>
              have refused : ¬∀ member ∈ rest, (ofMember member.1 member.2).isOk := fun accepted =>
                nomatch others.symm.trans (hypothesis.mpr ⟨accepted, rfl⟩)
              exact ⟨nofun, fun whole => absurd whole.1.2 refused⟩
          | ok listed =>
              obtain ⟨accepted, rfl⟩ := hypothesis.mp others
              simp only [Except.isOk, Except.toBool, true_and, Except.ok.injEq]
              exact ⟨fun equal => ⟨accepted, equal.symm⟩, fun equal => equal.2.symm⟩

/-- A member declares a pipe by the marker with a count behind it, its ordinal, and by a text. -/
structure Declares (member : String × Value) (entry : PipeEntry) : Prop where
  key : entry.key = member.1
  ordinal : ∃ written,
    member.1.toList = '$' :: written ∧ Numeral.WritesCount written entry.ordinal
  expression : member.2 = .text entry.expression

theorem declares_iff {key : String} {value : Value} {entry : PipeEntry} :
    Declares (key, value) entry ↔
      ∃ written ordinal expression,
        key.toList = '$' :: written ∧ Numeral.count? written = some ordinal ∧
          value = .text expression ∧ entry = ⟨key, ordinal, expression⟩ := by
  constructor
  · rintro ⟨rfl, ⟨written, marked, writes⟩, text⟩
    exact ⟨written, _, _, marked, Numeral.count?_eq_some_iff.mpr writes, text, rfl⟩
  · rintro ⟨written, ordinal, expression, marked, counted, text, rfl⟩
    exact ⟨rfl, ⟨written, marked, Numeral.count?_eq_some_iff.mp counted⟩, text⟩

theorem declared?_eq_some_iff {member : String × Value} {entry : PipeEntry} :
    declared? member = some entry ↔ Declares member entry := by
  obtain ⟨key, value⟩ := member
  rw [declares_iff]
  unfold declared? ofMember
  split
  case h_1 written marked =>
    cases counted : Numeral.count? written with
    | none => simp [Except.toOption, marked, counted]
    | some ordinal =>
        cases value with
        | text expression => simp [Except.toOption, marked, counted, eq_comm]
        | _ => simp [Except.toOption]
  case h_2 unmarked =>
    have other (written : List Char) : key.toList ≠ '$' :: written := unmarked written
    simp [Except.toOption, other]

/-- A member declares one pipe at most. -/
theorem Declares.unique
    {member : String × Value} {entry other : PipeEntry}
    (declares : Declares member entry) (again : Declares member other) :
    entry = other :=
  Option.some.inj
    ((declared?_eq_some_iff.mpr declares).symm.trans (declared?_eq_some_iff.mpr again))

/-- Behind the marker, the ordinal is looked at before the entry. -/
theorem ofMember_of_marked
    {key : String} {written : List Char}
    (marked : key.toList = '$' :: written)
    (value : Value) :
    ofMember key value =
      match Numeral.count? written, value with
      | none, _ => .error (.invalidPipeOrdinal key)
      | some ordinal, .text expression => .ok (some ⟨key, ordinal, expression⟩)
      | some _, found => .error (.invalidPipeExpression key (.notText found)) := by
  rw [ofMember, marked]
  rfl

/-- What is accepted and marked declares a pipe. -/
theorem exists_declares_of_marked
    {member : String × Value}
    (accepted : (ofMember member.1 member.2).isOk) (front : isMarked member = true) :
    ∃ entry, Declares member entry := by
  obtain ⟨written, marked⟩ := isMarked_iff.mp front
  rw [ofMember_of_marked marked] at accepted
  split at accepted
  case h_1 => cases accepted
  case h_2 ordinal expression counted text =>
    exact
      ⟨⟨member.1, ordinal, expression⟩, rfl,
        ⟨written, marked, Numeral.count?_eq_some_iff.mp counted⟩, text⟩
  case h_3 => cases accepted

/-- The marked members among those that are accepted declare one pipe each. -/
theorem forall₂_declares
    {pipes : List (String × Value)}
    (accepted : ∀ member ∈ pipes, (ofMember member.1 member.2).isOk) :
    List.Forall₂ Declares (pipes.filter isMarked) (pipes.filterMap declared?) := by
  induction pipes with
  | nil => exact .nil
  | cons member rest hypothesis =>
      obtain ⟨first, others⟩ := List.forall_mem_cons.mp accepted
      cases found : declared? member with
      | none =>
          have unmarked : ¬isMarked member = true := fun front => by
            obtain ⟨entry, declares⟩ := exists_declares_of_marked first front
            exact nomatch found.symm.trans (declared?_eq_some_iff.mpr declares)
          rw [List.filter_cons_of_neg unmarked, List.filterMap_cons_none found]
          exact hypothesis others
      | some entry =>
          have declares := declared?_eq_some_iff.mp found
          obtain ⟨written, marked, -⟩ := declares.ordinal
          have front := isMarked_iff.mpr ⟨written, marked⟩
          rw [List.filter_cons_of_pos front, List.filterMap_cons_some found]
          exact .cons declares (hypothesis others)

theorem ordinal_lt_of_ofMembers
    {pipes : List (String × Value)} {entries : List PipeEntry}
    (read : ofMembers pipes = .ok entries) :
    ∀ entry ∈ entries, entry.ordinal < Numeral.countLimit := by
  obtain ⟨-, rfl⟩ := ofMembers_eq_ok_iff.mp read
  intro entry listed
  obtain ⟨member, -, found⟩ := List.mem_filterMap.mp listed
  obtain ⟨written, -, writes⟩ := (declared?_eq_some_iff.mp found).ordinal
  exact writes.lt_countLimit

/-- Members in another order declare the same pipes in another order. -/
theorem ofMembers_perm
    {pipes others : List (String × Value)} {entries : List PipeEntry}
    (same : others.Perm pipes) (read : ofMembers pipes = .ok entries) :
    ∃ listed, ofMembers others = .ok listed ∧ listed.Perm entries := by
  obtain ⟨accepted, rfl⟩ := ofMembers_eq_ok_iff.mp read
  refine ⟨others.filterMap declared?, ofMembers_eq_ok_iff.mpr ⟨?_, rfl⟩, same.filterMap declared?⟩
  exact fun member held => accepted member (same.subset held)

end PipeEntry

namespace Pipeline

theorem stages_eq_ok_iff
    {environment : Environment} {entries : List PipeEntry} {resolved : List PipeStage} :
    stages environment entries = .ok resolved ↔
      List.Forall₂ (fun entry stage => entry.stage environment = .ok stage) entries resolved := by
  induction entries generalizing resolved with
  | nil =>
      rw [stages, Except.ok.injEq, List.forall₂_nil_left_iff]
      exact eq_comm
  | cons entry rest hypothesis =>
      rw [stages, List.forall₂_cons_left_iff]
      cases first : entry.stage environment with
      | error error => simp
      | ok stage =>
          simp only [map_eq_ok_iff, hypothesis, Except.ok.injEq]
          constructor
          · rintro ⟨behind, resolves, rfl⟩
            exact ⟨stage, behind, rfl, resolves, rfl⟩
          · rintro ⟨_, behind, rfl, resolves, rfl⟩
            exact ⟨behind, resolves, rfl⟩

/--
The pipes that accepted members declare, in the order of the members, are resolved
as sorting puts them.  Where different ordinals are told apart, that is in the
order of their ordinals, those of one ordinal in the order of the members, and if
no ordinal is repeated, every order of the members gives the same stages.
Elsewhere it is that order exactly when no later pipe has a smaller ordinal that
is not told apart, given that there are no more than twenty or that their
comparison is total and transitive.
-/
theorem ofMembers_ascends
    {environment : Environment} {pipes : List (String × Value)} {resolved : List PipeStage}
    (accepted : ofMembers environment pipes = .ok resolved) :
    ∃ entries ordered,
      List.Forall₂ PipeEntry.Declares (pipes.filter PipeEntry.isMarked) entries ∧
      Sorts PipeEntry.order entries ordered ∧
      List.Forall₂ (fun entry stage => entry.stage environment = .ok stage) ordered resolved ∧
      (PipeEntry.ToldApart entries →
        StablySorted PipeEntry.ordinal entries ordered ∧
        ((entries.Pairwise fun left right => left.ordinal ≠ right.ordinal) →
          ∀ others : List (String × Value), others.Perm pipes →
            ofMembers environment others = .ok resolved)) ∧
      (entries.length ≤ 20 ∨ OrdersOn PipeEntry.order {entry | entry ∈ entries} →
        (StablySorted PipeEntry.ordinal entries ordered ↔
          entries.Pairwise fun earlier later =>
            later.ordinal < earlier.ordinal → ¬PipeEntry.Blurred earlier later)) := by
  unfold ofMembers at accepted ⊢
  cases read : PipeEntry.ofMembers pipes with
  | error error => simp [read] at accepted
  | ok entries =>
      rw [read] at accepted
      have small := PipeEntry.ordinal_lt_of_ofMembers read
      have sorts := sorts_sorted PipeEntry.order entries
      have declares :
          List.Forall₂ PipeEntry.Declares (pipes.filter PipeEntry.isMarked) entries := by
        obtain ⟨all, rfl⟩ := PipeEntry.ofMembers_eq_ok_iff.mp read
        exact PipeEntry.forall₂_declares all
      refine
        ⟨entries, _, declares, sorts, stages_eq_ok_iff.mp accepted, ?apart, ?exactly⟩
      case apart =>
        intro apart
        have ascends := apart.stablySorted small sorts
        refine ⟨ascends, fun distinct others same => ?_⟩
        obtain ⟨listed, readOthers, permuted⟩ := PipeEntry.ofMembers_perm same read
        have apartOthers : PipeEntry.ToldApart listed := fun left held right present =>
          apart left (permuted.subset held) right (permuted.subset present)
        have ascendsOthers :=
          apartOthers.stablySorted (PipeEntry.ordinal_lt_of_ofMembers readOthers)
            (sorts_sorted PipeEntry.order listed)
        have agree : sorted PipeEntry.order entries = sorted PipeEntry.order listed :=
          ascends.eq_of_perm ascendsOthers permuted.symm distinct
        simp only [readOthers, ← agree]
        exact accepted
      case exactly =>
        rintro (_ | orders)
        · exact PipeEntry.stablySorted_iff small
        · exact PipeEntry.stablySorted_iff_of_sorts small orders sorts

/-- An environment with a function that gives nothing, under two names. -/
def naming : Environment where
  functions := Registry.ofList [("first", fun _ => .ok .null), ("second", fun _ => .ok .null)]

/-- The second pipe runs in front of the tenth, whichever of them is written first. -/
theorem ofMembers_ascends_tenth :
    (ofMembers naming [("$10", .text "second"), ("$2", .text "first")]).isOk ∧
      (ofMembers naming [("$2", .text "first"), ("$10", .text "second")]).toOption.map
        (List.map PipeStage.name) = some ["first", "second"] := by
  have accepted : ofMembers naming [("$10", .text "second"), ("$2", .text "first")] =
      .ok [⟨"first", fun _ => .ok .null, [.hole]⟩, ⟨"second", fun _ => .ok .null, [.hole]⟩] :=
    rfl
  obtain ⟨entries, ordered, declares, -, -, apart, -⟩ := ofMembers_ascends accepted
  have declared : List.Forall₂ PipeEntry.Declares
      [("$10", .text "second"), ("$2", .text "first")]
      [⟨"$10", 10, "second"⟩, ⟨"$2", 2, "first"⟩] :=
    .cons (PipeEntry.declared?_eq_some_iff.mp rfl)
      (.cons (PipeEntry.declared?_eq_some_iff.mp rfl) .nil)
  have unique : Relator.RightUnique PipeEntry.Declares := fun _ _ _ declares => declares.unique
  rcases List.right_unique_forall₂' unique declared declares with rfl
  have small : ∀ entry ∈ ([⟨"$10", 10, "second"⟩, ⟨"$2", 2, "first"⟩] : List PipeEntry),
      entry.ordinal < Numeral.integerLimit := by
    decide
  have swapped := (apart fun left held right present _ blurred =>
      (max_lt (small left held) (small right present)).not_ge blurred.1).2
    (List.pairwise_pair.mpr (by decide)) _ (List.Perm.swap _ _ [])
  rw [accepted, swapped]
  exact ⟨rfl, rfl⟩

/-- Two ordinals of one double beyond the signed range stay in the order of the members. -/
theorem ofMembers_not_ascends :
    (ofMembers naming
        [("$9223372036854775809", .text "second"),
          ("$9223372036854775808", .text "first")]).toOption.map (List.map PipeStage.name) =
      some ["second", "first"] := by
  decide +kernel

end Pipeline

end Stencil
