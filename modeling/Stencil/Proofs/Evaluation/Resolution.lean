import Stencil.Proofs.Evaluation.Ordinals
import Stencil.Proofs.Evaluation.Precedence
import Stencil.Proofs.Text.Counts
import Stencil.Proofs.Text.Pieces

/-!
# Resolving pipes

A pipe resolves when its ordinal is a count, its entry is a text, and the text
names a registered function with at most one placeholder among the arguments.
Its stage has one open slot, in the place of the placeholder or behind all
arguments, and holds in the others what the arguments stand for.  Every member
that is marked gives one stage.  Ordinals and entries are looked at first, in
the order of the members, and what they call after that, as sorting puts their
ordinals; what the functions do plays no part in it.
-/

namespace Stencil

/-! ## Arguments -/

namespace Environment

/-- What an argument stands for: the document it holds, where those are read, or its text. -/
inductive StandsFor (environment : Environment) (argument : String) :
    Value → Prop where
  | document {value : Value}
      (literal : environment.settings.literalArguments = true)
      (holds : Value.read? argument = some value) :
      StandsFor environment argument value
  | noDocument
      (literal : environment.settings.literalArguments = true)
      (bare : Value.read? argument = none) :
      StandsFor environment argument (.text argument)
  | written
      (plain : environment.settings.literalArguments = false) :
      StandsFor environment argument (.text argument)

variable {environment : Environment}

/-- An argument has exactly the value that it stands for. -/
theorem standsFor_iff
    {argument : String} {value : Value} :
    environment.StandsFor argument value ↔
      environment.argument argument = value := by
  rw [Environment.argument, Value.ofArgument, Value.ofLiteral]
  constructor
  · intro stands
    cases stands with
    | document literal holds => rw [if_pos literal, holds, Option.getD_some]
    | noDocument literal bare => rw [if_pos literal, bare, Option.getD_none]
    | written plain => rw [plain, if_neg Bool.false_ne_true]
  · rintro rfl
    cases literal : environment.settings.literalArguments with
    | false => exact .written literal
    | true =>
        cases held : Value.read? argument with
        | none => exact .noDocument literal held
        | some value => exact .document literal held

theorem forall₂_standsFor_iff
    {arguments : List String} {values : List Value} :
    List.Forall₂ environment.StandsFor arguments values ↔
      arguments.map environment.argument = values := by
  rw [← List.forall₂_eq_eq_eq, List.forall₂_map_left_iff]
  constructor
  · exact List.Forall₂.imp fun _ _ => standsFor_iff.mp
  · exact List.Forall₂.imp fun _ _ => standsFor_iff.mpr

end Environment

/-! ## Slots -/

namespace Slot

/-- Where the piped value stands among arguments: for the placeholder, or behind all of them. -/
inductive Places : List String → List String → List String → Prop where
  | within {before behind : List String}
      (noneBefore : placeholder ∉ before) (noneBehind : placeholder ∉ behind) :
      Places (before ++ placeholder :: behind) before behind
  | last {arguments : List String} (absent : placeholder ∉ arguments) :
      Places arguments arguments []

/-- At most one placeholder leaves one place for the piped value. -/
theorem exists_places
    {arguments : List String}
    (single : arguments.count placeholder ≤ 1) :
    ∃ before behind, Places arguments before behind := by
  by_cases present : placeholder ∈ arguments
  · rcases List.append_of_mem present with ⟨before, behind, rfl⟩
    rw [List.count_append, List.count_cons_self] at single
    have noneBefore : before.count placeholder = 0 := by omega
    have noneBehind : behind.count placeholder = 0 := by omega
    exact
      ⟨before, behind,
        .within (List.count_eq_zero.mp noneBefore)
          (List.count_eq_zero.mp noneBehind)⟩
  · exact ⟨arguments, [], .last present⟩

/-- There is only one place for the piped value. -/
theorem Places.unique
    {arguments before behind others rest : List String}
    (places : Places arguments before behind)
    (again : Places arguments others rest) :
    before = others ∧ behind = rest := by
  cases places with
  | within noneBefore noneBehind =>
      generalize same : before ++ placeholder :: behind = arguments at again
      cases again with
      | within _ _ =>
          rcases (List.append_cons_inj_of_notMem noneBefore noneBehind).mp same with
            ⟨front, _, rear⟩
          exact ⟨front, rear⟩
      | last absent =>
          rw [← same] at absent
          simp at absent
  | last absent =>
      cases again with
      | within _ _ => simp at absent
      | last _ => exact ⟨rfl, rfl⟩

/-- The slots of held values with one open place between them. -/
def around (before behind : List Value) : List Slot :=
  before.map bound ++ hole :: behind.map bound

variable {environment : Environment}

theorem map_ofArgument
    {arguments : List String}
    (absent : placeholder ∉ arguments) :
    arguments.map (ofArgument environment) =
      (arguments.map environment.argument).map bound := by
  rw [List.map_map]
  apply List.map_congr_left
  intro argument member
  have fixed : argument ≠ placeholder := by
    rintro rfl
    exact absent member
  exact if_neg fixed

/-- The slots of arguments hold what they stand for but for the place of the piped value. -/
theorem ofArguments_of_places
    {arguments before behind : List String} {heldBefore heldBehind : List Value}
    (places : Places arguments before behind)
    (front : List.Forall₂ environment.StandsFor before heldBefore)
    (rear : List.Forall₂ environment.StandsFor behind heldBehind) :
    ofArguments environment arguments = around heldBefore heldBehind := by
  rcases Environment.forall₂_standsFor_iff.mp front with rfl
  rcases Environment.forall₂_standsFor_iff.mp rear with rfl
  cases places with
  | within noneBefore noneBehind =>
      have opened : ofArgument environment placeholder = hole := if_pos rfl
      have found : (before ++ placeholder :: behind).contains placeholder = true := by
        simp
      rw [ofArguments, if_pos found, List.map_append, List.map_cons, opened,
        map_ofArgument noneBefore, map_ofArgument noneBehind]
      rfl
  | last absent =>
      have missing : arguments.contains placeholder = false := by
        simpa using absent
      rw [ofArguments, missing, if_neg Bool.false_ne_true, map_ofArgument absent]
      rfl

end Slot

/-- A stage with one open slot calls its function with the piped value in it. -/
theorem PipeStage.call_of_slots
    {stage : PipeStage} {before behind : List Value}
    (slots : stage.slots = Slot.around before behind)
    (value : Value) :
    stage.call value =
      (stage.function (before ++ value :: behind)).mapError
        (.function stage.name) := by
  have filled :
      stage.slots.map (Slot.fill value) = before ++ value :: behind := by
    have held (values : List Value) :
        (values.map Slot.bound).map (Slot.fill value) = values := by
      rw [List.map_map]
      exact List.map_id values
    rw [slots, Slot.around, List.map_append, List.map_cons, held, held]
    rfl
  rw [call, filled]
  cases stage.function (before ++ value :: behind) with
  | error cause => rfl
  | ok result => rfl

/-! ## Calls -/

namespace Pipeline

/-- The pieces of an expression between its colons, without the blanks around them. -/
def pieces (expression : String) : List String :=
  (expression.toList.splitOn ':').map fun piece => String.ofList (Text.trim piece)

theorem map_arguments (expression : String) :
    (Text.arguments expression.toList).map String.ofList = pieces expression := by
  rw [Text.arguments, Text.cutAt_eq_splitOn, List.map_map]
  rfl

theorem exists_pieces (expression : String) :
    ∃ name arguments, pieces expression = name :: arguments := by
  cases split : expression.toList.splitOn ':' with
  | nil => exact absurd split (List.splitOn_ne_nil ':' expression.toList)
  | cons first rest =>
      rw [pieces, split]
      exact ⟨_, _, rfl⟩

/-- What an expression calls: a registered function, with at most one placeholder. -/
structure Calls (environment : Environment) (expression name : String)
    (function : PipeFunction) (arguments : List String) : Prop where
  pieces_eq : pieces expression = name :: arguments
  named : name ≠ ""
  registered : environment.functions.get? name = some function
  single : arguments.count Slot.placeholder ≤ 1

/--
A stage calls what the entry of a member says, with the piped value in its one place
and what the arguments stand for in the others.
-/
inductive Applies (environment : Environment) (member : String × Value)
    (stage : PipeStage) : Prop where
  | intro {expression : String} {arguments before behind : List String}
      {heldBefore heldBehind : List Value}
      (entry : member.2 = .text expression)
      (calls : Calls environment expression stage.name stage.function arguments)
      (places : Slot.Places arguments before behind)
      (front : List.Forall₂ environment.StandsFor before heldBefore)
      (rear : List.Forall₂ environment.StandsFor behind heldBehind)
      (slots_eq : stage.slots = Slot.around heldBefore heldBehind)
      (call_eq :
        ∀ value,
          stage.call value =
            (stage.function (heldBefore ++ value :: heldBehind)).mapError
              (.function stage.name))

/-! ## Faults -/

/-- What is wrong with a marked member before its call is looked at. -/
inductive MemberFault (member : String × Value) : EvaluationError → Prop where
  | ordinal {written : List Char}
      (marked : member.1.toList = '$' :: written)
      (unread : ∀ ordinal, ¬Numeral.WritesCount written ordinal) :
      MemberFault member (.invalidPipeOrdinal member.1)
  | entry {written : List Char} {ordinal : Nat}
      (marked : member.1.toList = '$' :: written)
      (read : Numeral.WritesCount written ordinal)
      (noText : ∀ expression, member.2 ≠ .text expression) :
      MemberFault member (.invalidPipeExpression member.1 (.notText member.2))

/-- What is wrong with the call of a member. -/
inductive CallFault (environment : Environment) (member : String × Value) :
    EvaluationError → Prop where
  | unnamed {expression : String} {arguments : List String}
      (entry : member.2 = .text expression)
      (pieces_eq : pieces expression = "" :: arguments) :
      CallFault environment member (.invalidPipeExpression member.1 .missingName)
  | unregistered {expression name : String} {arguments : List String}
      (entry : member.2 = .text expression)
      (pieces_eq : pieces expression = name :: arguments)
      (named : name ≠ "")
      (missing : environment.functions.get? name = none) :
      CallFault environment member (.unresolvedFunction name)
  | placeholders {expression name : String} {arguments : List String}
      (entry : member.2 = .text expression)
      (pieces_eq : pieces expression = name :: arguments)
      (named : name ≠ "")
      (registered : (environment.functions.get? name).isSome = true)
      (several : 1 < arguments.count Slot.placeholder) :
      CallFault environment member
        (.multiplePlaceholders name (arguments.count Slot.placeholder))

end Pipeline

/-! ## Stages of calls -/

namespace PipeEntry

/-- The member that declares a pipe. -/
def member (entry : PipeEntry) : String × Value :=
  (entry.key, .text entry.expression)

variable {environment : Environment} {entry : PipeEntry}

/-- A stage is made of the first piece, unless it is empty, and the others. -/
theorem stage_eq_of_pieces
    {name : String} {arguments : List String}
    (split : Pipeline.pieces entry.expression = name :: arguments) :
    entry.stage environment =
      if name = "" then
        .error (.invalidPipeExpression entry.key .missingName)
      else PipeStage.ofArguments environment name arguments := by
  rw [stage, Pipeline.map_arguments, split]
  by_cases unnamed : name = ""
  · rcases unnamed with rfl
    rfl
  · rw [if_neg unnamed]
    split
    · next impossible => cases impossible
    · next same => exact absurd (List.cons.inj same).1 unnamed
    · next same =>
        rcases List.cons.inj same with ⟨rfl, rfl⟩
        rfl

theorem stage_eq_ok_iff
    {stage : PipeStage} :
    entry.stage environment = .ok stage ↔
      ∃ arguments,
        Pipeline.Calls environment entry.expression stage.name stage.function
            arguments ∧
          stage.slots = Slot.ofArguments environment arguments := by
  rcases Pipeline.exists_pieces entry.expression with ⟨name, arguments, split⟩
  rw [stage_eq_of_pieces split, PipeStage.ofArguments]
  constructor
  · intro resolved
    split at resolved
    · cases resolved
    · next named =>
        split at resolved
        · cases resolved
        · next function registered =>
            dsimp only at resolved
            split at resolved
            · cases resolved
            · next single =>
                rcases Except.ok.inj resolved with rfl
                exact
                  ⟨arguments, ⟨split, named, registered, Nat.le_of_not_lt single⟩,
                    rfl⟩
  · rintro ⟨others, calls, slots⟩
    rcases List.cons.inj (split.symm.trans calls.pieces_eq) with ⟨rfl, rfl⟩
    rw [if_neg calls.named, calls.registered]
    dsimp only
    rw [if_neg (Nat.not_lt_of_le calls.single), ← slots]

theorem stage_eq_error_iff
    {error : EvaluationError} :
    entry.stage environment = .error error ↔
      Pipeline.CallFault environment entry.member error := by
  rcases Pipeline.exists_pieces entry.expression with ⟨name, arguments, split⟩
  rw [stage_eq_of_pieces split, PipeStage.ofArguments]
  constructor
  · intro refused
    split at refused
    · next unnamed =>
        rcases unnamed with rfl
        rcases Except.error.inj refused with rfl
        exact .unnamed rfl split
    · next named =>
        split at refused
        · next missing =>
            rcases Except.error.inj refused with rfl
            exact .unregistered rfl split named missing
        · next function registered =>
            dsimp only at refused
            split at refused
            · next several =>
                rcases Except.error.inj refused with rfl
                refine .placeholders rfl split named ?_ several
                rw [registered]
                rfl
            · cases refused
  · intro fault
    cases fault with
    | unnamed text pieces =>
        rcases Value.text.inj text with rfl
        rcases List.cons.inj (split.symm.trans pieces) with ⟨rfl, _⟩
        rfl
    | unregistered text pieces named missing =>
        rcases Value.text.inj text with rfl
        rcases List.cons.inj (split.symm.trans pieces) with ⟨rfl, _⟩
        rw [if_neg named, missing]
    | placeholders text pieces named registered several =>
        rcases Value.text.inj text with rfl
        rcases List.cons.inj (split.symm.trans pieces) with ⟨rfl, rfl⟩
        rcases Option.isSome_iff_exists.mp registered with ⟨function, found⟩
        rw [if_neg named, found]
        dsimp only
        rw [if_pos several]

/-- The stage of a pipe is the one that applies what its member calls. -/
theorem stage_eq_ok_iff_applies
    {stage : PipeStage} :
    entry.stage environment = .ok stage ↔
      Pipeline.Applies environment entry.member stage := by
  rw [stage_eq_ok_iff]
  constructor
  · rintro ⟨arguments, calls, slots⟩
    rcases Slot.exists_places calls.single with ⟨before, behind, places⟩
    have front := Environment.forall₂_standsFor_iff.mpr
      (Eq.refl (before.map environment.argument))
    have rear := Environment.forall₂_standsFor_iff.mpr
      (Eq.refl (behind.map environment.argument))
    rw [Slot.ofArguments_of_places places front rear] at slots
    exact
      .intro rfl calls places front rear slots (PipeStage.call_of_slots slots)
  · rintro ⟨text, calls, places, front, rear, slots, -⟩
    rcases Value.text.inj text with rfl
    exact
      ⟨_, calls, slots.trans (Slot.ofArguments_of_places places front rear).symm⟩

/-! ## Members -/

theorem ofMember_eq_error_iff
    {key : String} {value : Value} {error : EvaluationError} :
    ofMember key value = .error error ↔
      Pipeline.MemberFault (key, value) error := by
  constructor
  · intro refused
    rw [ofMember] at refused
    split at refused
    · next written marked =>
        split at refused
        · next uncounted =>
            rcases Except.error.inj refused with rfl
            refine .ordinal marked fun ordinal writes => ?_
            rw [Numeral.count?_eq_some_iff.mpr writes] at uncounted
            cases uncounted
        · cases refused
        · next ordinal _ counted noText =>
            rcases Except.error.inj refused with rfl
            exact
              .entry marked (Numeral.count?_eq_some_iff.mp counted)
                fun expression text => noText expression text
    · cases refused
  · intro fault
    cases fault with
    | @ordinal written marked unread =>
        have uncounted : Numeral.count? written = none := by
          apply Option.eq_none_iff_forall_ne_some.mpr
          intro ordinal counted
          exact unread ordinal (Numeral.count?_eq_some_iff.mp counted)
        rw [ofMember_of_marked marked, uncounted]
    | @entry written ordinal marked read noText =>
        rw [ofMember_of_marked marked, Numeral.count?_eq_some_iff.mpr read]
        cases value with
        | text expression => exact absurd rfl (noText expression)
        | _ => rfl

theorem isOk_ofMember_iff
    {member : String × Value} :
    (ofMember member.1 member.2).isOk ↔
      ∀ error, ¬Pipeline.MemberFault member error := by
  cases outcome : ofMember member.1 member.2 with
  | ok entry =>
      refine ⟨fun _ error fault => ?_, fun _ => rfl⟩
      exact nomatch outcome.symm.trans (ofMember_eq_error_iff.mpr fault)
  | error error =>
      refine ⟨nofun, fun sound => ?_⟩
      exact absurd (ofMember_eq_error_iff.mp outcome) (sound error)

/-- Members are refused for the first one that has a fault of its own. -/
theorem ofMembers_eq_error_iff
    {pipes : List (String × Value)} {error : EvaluationError} :
    ofMembers pipes = .error error ↔
      FirstFault (pipes.map Pipeline.MemberFault) error := by
  induction pipes with
  | nil =>
      constructor
      · intro refused
        cases refused
      · intro first
        cases first
  | cons first rest ih =>
      rcases first with ⟨key, value⟩
      rw [List.map_cons, firstFault_cons_iff, ← ih]
      simp only [← ofMember_eq_error_iff]
      rw [ofMembers]
      cases ofMember key value with
      | error cause => simp
      | ok entry =>
          cases ofMembers rest with
          | error cause => simp
          | ok entries => simp

end PipeEntry

/-! ## Pipelines -/

namespace Pipeline

/-- The members that declare pipes, in the order in which their calls are resolved. -/
def resolutionOrder (pipes : List (String × Value)) : List (String × Value) :=
  (sorted PipeEntry.order (pipes.filterMap PipeEntry.declared?)).map PipeEntry.member

/-- No member has a fault of its own, and each stage applies what one of them calls. -/
structure Resolves (environment : Environment) (pipes : List (String × Value))
    (stages : List PipeStage) : Prop where
  sound : ∀ member ∈ pipes, ∀ error, ¬MemberFault member error
  applies : List.Forall₂ (Applies environment) (resolutionOrder pipes) stages

/-- The faults of members, in their order, and those of their calls in that of the ordinals. -/
def faults (environment : Environment) (pipes : List (String × Value)) :
    List (EvaluationError → Prop) :=
  pipes.map MemberFault ++ (resolutionOrder pipes).map (CallFault environment)

variable {environment : Environment} {pipes : List (String × Value)}

theorem stages_eq_error_iff
    {entries : List PipeEntry} {error : EvaluationError} :
    stages environment entries = .error error ↔
      FirstFault ((entries.map PipeEntry.member).map (CallFault environment)) error := by
  induction entries with
  | nil =>
      constructor
      · intro refused
        cases refused
      · intro first
        cases first
  | cons entry rest ih =>
      rw [List.map_cons, List.map_cons, firstFault_cons_iff, ← ih]
      simp only [← PipeEntry.stage_eq_error_iff]
      rw [stages]
      cases entry.stage environment with
      | error cause => simp
      | ok stage => simp [map_eq_error_iff]

theorem ofMembers_eq_bind :
    ofMembers environment pipes =
      (PipeEntry.ofMembers pipes).bind fun entries =>
        stages environment (sorted PipeEntry.order entries) := by
  rw [ofMembers]
  cases PipeEntry.ofMembers pipes with
  | error error => rfl
  | ok entries => rfl

/-- Pipes fail to resolve by their first fault, and those of members come first. -/
theorem ofMembers_eq_error_iff
    {error : EvaluationError} :
    ofMembers environment pipes = .error error ↔
      FirstFault (faults environment pipes) error := by
  rw [ofMembers_eq_bind]
  apply bind_eq_error_iff_firstFault
  · intro cause
    exact PipeEntry.ofMembers_eq_error_iff
  · intro entries read cause
    rcases PipeEntry.ofMembers_eq_ok_iff.mp read with ⟨_, rfl⟩
    exact stages_eq_error_iff

/-- Pipes resolve to the stages that apply what they call, in the order of resolution. -/
theorem ofMembers_eq_ok_iff
    {resolved : List PipeStage} :
    ofMembers environment pipes = .ok resolved ↔
      Resolves environment pipes resolved := by
  have applied :
      stages environment
          (sorted PipeEntry.order (pipes.filterMap PipeEntry.declared?)) =
          .ok resolved ↔
        List.Forall₂ (Applies environment) (resolutionOrder pipes) resolved := by
    rw [stages_eq_ok_iff, resolutionOrder, List.forall₂_map_left_iff]
    simp only [PipeEntry.stage_eq_ok_iff_applies]
  rw [ofMembers_eq_bind]
  constructor
  · intro resolves
    cases read : PipeEntry.ofMembers pipes with
    | error error =>
        rw [read] at resolves
        cases resolves
    | ok entries =>
        rw [read] at resolves
        rcases PipeEntry.ofMembers_eq_ok_iff.mp read with ⟨accepted, rfl⟩
        exact
          ⟨fun member held =>
              PipeEntry.isOk_ofMember_iff.mp (accepted member held),
            applied.mp resolves⟩
  · rintro ⟨sound, applies⟩
    have read : PipeEntry.ofMembers pipes =
        .ok (pipes.filterMap PipeEntry.declared?) :=
      PipeEntry.ofMembers_eq_ok_iff.mpr
        ⟨fun member held =>
            PipeEntry.isOk_ofMember_iff.mpr (sound member held),
          rfl⟩
    rw [read]
    exact applied.mpr applies

end Pipeline

end Stencil
