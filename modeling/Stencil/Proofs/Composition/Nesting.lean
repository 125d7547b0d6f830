import Mathlib.Data.ENat.Lattice
import Mathlib.Order.Bounds.Basic
import Stencil.Composition.Template
import Stencil.Proofs.Composition.Renders
import Stencil.Proofs.Evaluation.Stages

/-!
# Nested compositions

While a composition renders a template, the node of the template may turn out
to be an inception, which is then composed in turn.  Its own depth is capped by
what the composition around it leaves.  So a composition has as many levels
left as the inceptions around it allow, each less the levels in between, and it
is refused when one of them is used up.
-/

namespace Stencil

namespace Depth

/-- How many levels a depth allows; there may be no bound. -/
def levels : Depth → ℕ∞
  | .finite count => count
  | .unbounded => ⊤

theorem levels_tighter (own budget : Depth) :
    (own.tighter budget).levels = min own.levels budget.levels := by
  cases own with
  | finite own =>
      cases budget with
      | finite budget => exact Nat.mono_cast.map_min
      | unbounded => exact (min_top_right _).symm
  | unbounded =>
      cases budget with
      | finite budget => exact (min_top_left _).symm
      | unbounded => exact (min_self _).symm

theorem levels_of_below?
    {depth budget : Depth}
    (below : depth.below? = some budget) :
    depth.levels = budget.levels + 1 := by
  rcases depth with (_ | count) | _
  · cases below
  · cases below
    exact Nat.cast_succ count
  · cases below
    rfl

theorem below?_eq_none_iff (depth : Depth) :
    depth.below? = none ↔ depth.levels = 0 := by
  rcases depth with (_ | count) | _
  · exact ⟨fun _ => rfl, fun _ => rfl⟩
  · exact ⟨nofun, fun none => absurd none (Nat.cast_add_one_ne_zero count)⟩
  · exact ⟨nofun, nofun⟩

theorem eq_finite_of_levels_eq
    {depth : Depth} {count : Nat}
    (levels_eq : depth.levels = count) :
    depth = .finite count := by
  cases depth with
  | finite levels => exact congrArg finite (Nat.cast_injective levels_eq)
  | unbounded => exact absurd levels_eq (ENat.top_ne_natCast count)

end Depth

/-! ## Rendering the templates of a tree -/

namespace Composition

variable
  {Template Source : Type} {Effect : Type → Type} [Monad Effect]
  (render : Template → Value → ExceptT EvaluationError Effect Value)
  (make : Source → Template)

theorem lens_map (base : Value) (sources : List Source) :
    lens render base (sources.map make) =
      lens (fun source => render (make source)) base sources := by
  induction sources generalizing base with
  | nil => rfl
  | cons source rest ih => simp only [List.map_cons, lens, ih]

theorem renderAll_map (document : Value) (sources : List Source) :
    renderAll render document (sources.map make) =
      renderAll (fun source => render (make source)) document sources := by
  induction sources with
  | nil => rfl
  | cons source rest ih => simp only [List.map_cons, renderAll, ih]

theorem pairs_map (sources : List Source) (documents : List Value) :
    pairs (sources.map make) documents =
      (pairs sources documents).map (Prod.map make id) := by
  match sources with
  | [] => rfl
  | [source] => simp [pairs]
  | first :: second :: rest =>
      show ((first :: second :: rest).map make).zip documents = _
      rw [List.zip_map_left]
      rfl

theorem renderPairs_map (work : List (Source × Value)) :
    renderPairs render (work.map (Prod.map make id)) =
      renderPairs (fun source => render (make source)) work := by
  induction work with
  | nil => rfl
  | cons pair rest ih =>
      simp only [List.map_cons, Prod.map, id, renderPairs, ih]

theorem compose_map
    (mode : InceptionMode) (environment : Environment) (node : Node)
    (sources : List Source) :
    compose mode render environment node (sources.map make) =
      compose mode (fun source => render (make source)) environment node
        sources := by
  cases mode with
  | lens => exact lens_map render make (node.value.getD .null) sources
  | lead =>
      cases sources with
      | nil => rfl
      | cons leader rest =>
          have all := renderAll_map render make
          simp only [compose, List.map_cons, lead] at all ⊢
          simp only [← List.map_cons, all]
  | zip =>
      cases sources with
      | nil => rfl
      | cons leader rest =>
          simp only [compose, List.map_cons, zip, pairs_map, renderPairs_map]

end Composition

theorem Node.composeTemplates_map
    {Template Source : Type} {Effect : Type → Type} [Monad Effect]
    (render : Renderer Template Effect) (make : Source → Template)
    (environment : Environment) (mark : Mark) (node : Node)
    (sources : List Source) :
    node.composeTemplates render environment mark (sources.map make) =
      node.composeTemplates (fun source => render (make source)) environment
        mark sources := by
  simp only [composeTemplates, Composition.compose_map]

/-- The node prepared for being composed, its own depth capped by a budget. -/
def Node.within (budget : Depth) (node : Node) : Node :=
  { node.prepare with
    depth := node.prepare.depth.map fun own => own.tighter budget }

theorem Node.reach_within
    {node : Node} {inception : Inception}
    (declared : node.operators.inception = some inception)
    (budget : Depth) :
    (node.within budget).reach = inception.depth.tighter budget := by
  have prepared :
      node.prepare =
        { node with
          mode := some inception.mode, depth := some inception.depth } := by
    rw [prepare, declared]
  rw [reach, ready, within, prepared]
  rfl

theorem Node.operators_eq_of_evaluate
    {environment : Environment} {context : Location} {node evaluated : Node}
    {table behind : TagTable}
    (evaluates :
      (node.evaluate environment context).run.run table =
        (.ok evaluated, behind)) :
    evaluated.operators = node.operators := by
  rcases exists_tag_of_evaluate evaluates with ⟨_, _, _, rfl⟩
  rfl

namespace Template

theorem renderings_eq_map
    (functions : Registry PipeFunction) (handlers : Registry Handler)
    (templates : List Template) :
    renderings functions handlers templates =
      templates.map (render functions handlers) := by
  induction templates with
  | nil => rfl
  | cons template rest ih => rw [renderings, ih, List.map_cons]

/-- A composition as it is started in the course of rendering a tree. -/
structure Composing where
  /-- What the composition reads. -/
  environment : Environment
  /-- The marker of its result. -/
  mark : Mark
  /-- The node that is composed. -/
  node : Node
  /-- The templates below the node. -/
  templates : List Template
  /-- The table that the composition finds. -/
  table : TagTable

namespace Composing

/-- The outcome of a composition, and the table behind it. -/
def run
    (functions : Registry PipeFunction) (handlers : Registry Handler)
    (composing : Composing) :
    Except EvaluationError Node × TagTable :=
  (composing.node.composeTemplates (render functions handlers)
    composing.environment composing.mark composing.templates).run.run
      composing.table

/-- The plan that a composition follows in a mode. -/
def plan (composing : Composing) (mode : InceptionMode) :
    Composition.Plan Template :=
  .ofMode mode composing.environment.origin
    (composing.node.value.getD .null) composing.templates

/-- The composition of an evaluated node, whose own depth is capped by a budget. -/
def capped
    (functions : Registry PipeFunction) (handlers : Registry Handler)
    (document : Value) (budget : Depth) (evaluated : Node)
    (templates : List Template) (table : TagTable) :
    Composing where
  environment := environmentOf functions handlers document
  mark := Mark.inception
  node := evaluated.within budget
  templates := templates
  table := table

end Composing

variable {functions : Registry PipeFunction} {handlers : Registry Handler}

/-- A template whose node is an inception is rendered by composing it within the budget. -/
theorem run_render_of_inception
    {template : Template} {document : Value} {evaluated : Node}
    {table behind : TagTable} {inception : Inception}
    (declared : template.node.operators.inception = some inception)
    (evaluates :
      (template.node.evaluate (environmentOf functions handlers document)
          []).run.run table =
        (.ok evaluated, behind))
    (budget : Depth) :
    (render functions handlers template document budget).run.run table =
      match (Composing.capped functions handlers document budget evaluated
          template.children behind).run functions handlers with
      | (.error error, final) => (.error error, final)
      | (.ok composed, final) => (.ok (composed.value.getD .null), final) := by
  rcases template with ⟨node, children⟩
  have operators_eq := Node.operators_eq_of_evaluate evaluates
  have composes :
      ((evaluated.within budget).composeTemplates (fun rendering => rendering)
          (environmentOf functions handlers document) Mark.inception
          (renderings functions handlers children)).run.run behind =
        (Composing.capped functions handlers document budget evaluated children
          behind).run functions handlers := by
    rw [renderings_eq_map, Node.composeTemplates_map]
    rfl
  rw [render, renderNode]
  dsimp only [Template.node, Template.children] at *
  rw [Pass.run_bind, evaluates]
  dsimp only
  rw [operators_eq, declared]
  dsimp only
  rw [Pass.run_bind, ← Node.within, composes]
  rcases (Composing.capped functions handlers document budget evaluated
      children behind).run functions handlers with ⟨outcome, final⟩
  cases outcome with
  | error error => rfl
  | ok composed => rfl

/-! ## Compositions inside one another -/

/--
A composition renders a template whose node is an inception with an own depth,
and that inception is composed in turn.
-/
inductive Nests
    (functions : Registry PipeFunction) (handlers : Registry Handler)
    (outer : Composing) :
    Depth → Composing → Prop where
  | nests
      {mode : InceptionMode} {budget : Depth} {given : List Value}
      {between behind : TagTable} {template : Template} {document : Value}
      {evaluated : Node} {nestedMode : InceptionMode} {own : Depth}
      (mode_eq : outer.node.ready.mode = some mode)
      (below : outer.node.reach.below? = some budget)
      (reached :
        Relation.ReflTransGen
          (Composition.Renders
            (fun template document =>
              render functions handlers template document budget)
            (outer.plan mode))
          ([], outer.table) (given, between))
      (isDue : (outer.plan mode).due given = some (template, document))
      (declared : template.node.operators.inception = some ⟨nestedMode, own⟩)
      (evaluates :
        (template.node.evaluate (environmentOf functions handlers document)
            []).run.run between =
          (.ok evaluated, behind)) :
      Nests functions handlers outer own
        (.capped functions handlers document budget evaluated
          template.children behind)

/--
A composition that is reached from an outermost one, with the own depths of the
inceptions from the composition itself out to the outermost.
-/
inductive Nested
    (functions : Registry PipeFunction) (handlers : Registry Handler)
    (outermost : Composing) :
    List Depth → Composing → Prop where
  | outermost :
      Nested functions handlers outermost [outermost.node.reach] outermost
  | deeper
      {owns : List Depth} {outer inner : Composing} {own : Depth}
      (around : Nested functions handlers outermost owns outer)
      (nests : Nests functions handlers outer own inner) :
      Nested functions handlers outermost (own :: owns) inner

variable {outermost outer inner : Composing} {own : Depth} {owns : List Depth}

/-- A nested composition keeps within its own depth and within what is left to it. -/
theorem Nests.levels_eq
    (nests : Nests functions handlers outer own inner) :
    ∃ budget : Depth,
      outer.node.reach.levels = budget.levels + 1 ∧
        inner.node.reach.levels = min own.levels budget.levels := by
  cases nests with
  | @nests _ budget _ _ _ _ _ _ _ _ _ below _ _ declared evaluates =>
      refine ⟨budget, Depth.levels_of_below? below, ?_⟩
      rw [← Node.operators_eq_of_evaluate evaluates] at declared
      rw [← Depth.levels_tighter, ← Node.reach_within declared]
      rfl

/-- A failure of a nested composition is a failure of the composition around it. -/
theorem Nests.run_eq_of_error
    {error : EvaluationError} {behind : TagTable}
    (nests : Nests functions handlers outer own inner)
    (fails : inner.run functions handlers = (.error error, behind)) :
    outer.run functions handlers = (.error error, behind) := by
  cases nests with
  | @nests _ budget _ _ _ _ _ _ _ _ mode_eq below reached isDue declared
      evaluates =>
      have answer := run_render_of_inception declared evaluates budget
      rw [fails] at answer
      exact Node.run_composeTemplates_of_follows mode_eq below
        ⟨_, reached, .failed isDue answer⟩

/-- Failures of nested compositions are failures of all compositions around them. -/
theorem Nested.run_eq_of_error
    {error : EvaluationError} {behind : TagTable}
    (nested : Nested functions handlers outermost owns inner)
    (fails : inner.run functions handlers = (.error error, behind)) :
    outermost.run functions handlers = (.error error, behind) := by
  induction nested with
  | outermost => exact fails
  | deeper _ nests ih => exact ih (nests.run_eq_of_error fails)

theorem Nested.levels_add_le
    (nested : Nested functions handlers outermost owns inner)
    {index : Nat}
    (present : owns[index]? = some own) :
    inner.node.reach.levels + index ≤ own.levels := by
  induction nested generalizing index with
  | outermost =>
      cases index with
      | zero =>
          cases present
          exact (add_zero _).le
      | succ index => cases present
  | deeper _ nests ih =>
      rcases nests.levels_eq with ⟨budget, outer_eq, inner_eq⟩
      rw [inner_eq]
      cases index with
      | zero =>
          cases present
          exact (add_zero _).trans_le (min_le_left _ _)
      | succ index =>
          have around := ih present
          rw [outer_eq, add_assoc, add_comm 1] at around
          exact (add_le_add_left (min_le_right _ _) _).trans around

theorem Nested.exists_levels_add_eq
    (nested : Nested functions handlers outermost owns inner) :
    ∃ index own,
      owns[index]? = some own ∧
        inner.node.reach.levels + (index : Nat) = own.levels := by
  induction nested with
  | outermost => exact ⟨0, _, rfl, add_zero _⟩
  | @deeper _ _ _ own _ nests ih =>
      rcases nests.levels_eq with ⟨budget, outer_eq, inner_eq⟩
      rw [inner_eq]
      rcases le_total own.levels budget.levels with tight | loose
      · exact ⟨0, own, rfl, by rw [min_eq_left tight]; exact add_zero _⟩
      · rcases ih with ⟨index, other, present, reaches⟩
        refine ⟨index + 1, other, present, ?_⟩
        rw [min_eq_right loose, ← reaches, outer_eq, add_assoc, add_comm 1]
        rfl

/-- The depth of a nested composition: the least that an inception around it leaves to it. -/
theorem Nested.isLeast_levels
    (nested : Nested functions handlers outermost owns inner) :
    IsLeast
      {left : ℕ∞ |
        ∃ (index : Nat) (own : Depth),
          owns[index]? = some own ∧ left = own.levels - index}
      inner.node.reach.levels := by
  constructor
  · rcases nested.exists_levels_add_eq with ⟨index, own, present, reaches⟩
    exact ⟨index, own, present,
      (ENat.addLECancellable_natCast index).eq_tsub_of_add_eq reaches⟩
  · rintro _ ⟨index, own, present, rfl⟩
    exact (ENat.addLECancellable_natCast index).le_tsub_of_add_le_right
      (nested.levels_add_le present)

/-- A nested composition is refused when an inception around it has no level left for it. -/
theorem Nested.below?_eq_none_iff
    (nested : Nested functions handlers outermost owns inner) :
    inner.node.reach.below? = none ↔
      ∃ index : Nat, owns[index]? = some (Depth.finite index) := by
  rw [Depth.below?_eq_none_iff]
  constructor
  · intro none
    rcases nested.exists_levels_add_eq with ⟨index, own, present, reaches⟩
    rw [none, zero_add] at reaches
    rw [Depth.eq_finite_of_levels_eq reaches.symm] at present
    exact ⟨index, present⟩
  · rintro ⟨index, present⟩
    have within := nested.levels_add_le present
    rw [Depth.levels, ← zero_add (index : ℕ∞), ← add_assoc, add_zero] at within
    exact nonpos_iff_eq_zero.mp
      ((ENat.add_le_add_iff_right (ENat.natCast_ne_top index)).mp within)

/-- Whether each of the own depths, from the innermost outwards, has a level left inside. -/
def HaveLeft (owns : List Depth) : Prop :=
  ∀ (index : Nat) (own : Depth),
    owns[index]? = some own → (index : ℕ∞) < own.levels

theorem Nested.exists_below?_of_haveLeft
    (nested : Nested functions handlers outermost owns inner)
    (left : HaveLeft owns) :
    ∃ budget, inner.node.reach.below? = some budget := by
  cases below : inner.node.reach.below? with
  | some budget => exact ⟨budget, rfl⟩
  | none =>
      rcases nested.below?_eq_none_iff.mp below with ⟨index, present⟩
      exact absurd (left index _ present) (lt_irrefl _)

theorem Nested.haveLeft_of_below?
    {budget : Depth}
    (nested : Nested functions handlers outermost owns inner)
    (below : inner.node.reach.below? = some budget) :
    HaveLeft owns := by
  intro index own present
  have within := nested.levels_add_le present
  rw [Depth.levels_of_below? below, add_assoc, add_comm 1] at within
  exact (ENat.add_one_le_iff (ENat.natCast_ne_top index)).mp
    (le_add_self.trans within)

theorem Nested.not_haveLeft_iff
    (nested : Nested functions handlers outermost owns inner) :
    ¬HaveLeft owns ↔
      ∃ index : Nat, owns[index]? = some (Depth.finite index) := by
  constructor
  · intro spent
    apply nested.below?_eq_none_iff.mp
    cases below : inner.node.reach.below? with
    | none => rfl
    | some budget => exact absurd (nested.haveLeft_of_below? below) spent
  · rintro ⟨index, present⟩ left
    exact absurd (left index _ present) (lt_irrefl _)

/-- An outermost depth that has a level left for a composition counts all levels around it. -/
theorem HaveLeft.length_le
    {count : Nat}
    (left : HaveLeft owns)
    (last : owns.getLast? = some (.finite count)) :
    owns.length ≤ count := by
  rw [List.getLast?_eq_getElem?] at last
  have inside : owns.length - 1 < count := Nat.cast_lt.mp (left _ _ last)
  omega

/--
A composition that is reached is composed with the least of what the inceptions
around it leave to it, the own depth of each less the levels down to it.  While
all of them have a level left, it follows the plan of its mode, which leaves no
template out whatever the depth is; so no more levels are composed than an
outermost depth counts.  When one of them is used up, and only then, it is
refused, and the whole run fails with that refusal.
-/
theorem nesting_within_depths
    {mode : InceptionMode}
    (nested : Nested functions handlers outermost owns inner)
    (mode_eq : inner.node.ready.mode = some mode) :
    IsLeast
        {left : ℕ∞ |
          ∃ (index : Nat) (own : Depth),
            owns[index]? = some own ∧ left = own.levels - index}
        inner.node.reach.levels ∧
      (HaveLeft owns →
        (∃ budget composed behind,
          inner.node.reach.below? = some budget ∧
            Composition.Follows
              (fun template document =>
                render functions handlers template document budget)
              (inner.plan mode) ([], inner.table) (composed, behind) ∧
            inner.run functions handlers =
              (composed.map fun value =>
                inner.node.ready.withValue (some value) inner.mark,
              behind)) ∧
        ∀ count : Nat,
          owns.getLast? = some (Depth.finite count) →
            owns.length ≤ count) ∧
      (¬HaveLeft owns ↔
        ∃ index : Nat, owns[index]? = some (Depth.finite index)) ∧
      (¬HaveLeft owns →
        inner.run functions handlers =
            (.error (.depthExceeded mode), inner.table) ∧
          outermost.run functions handlers =
            (.error (.depthExceeded mode), inner.table)) := by
  refine ⟨nested.isLeast_levels, ?_, nested.not_haveLeft_iff, ?_⟩
  · intro left
    rcases nested.exists_below?_of_haveLeft left with ⟨budget, below⟩
    rcases Node.exists_follows_composeTemplates mode_eq below inner.table with
      ⟨composed, behind, follows, run⟩
    exact ⟨⟨budget, composed, behind, below, follows, run⟩,
      fun _ => left.length_le⟩
  · intro spent
    cases below : inner.node.reach.below? with
    | some budget => exact absurd (nested.haveLeft_of_below? below) spent
    | none =>
        have refused :
            inner.run functions handlers =
              (.error (.depthExceeded mode), inner.table) :=
          Node.run_composeTemplates_of_exceeded mode_eq below inner.table
        exact ⟨refused, nested.run_eq_of_error refused⟩

/-- A composition of one level, with an inception of five levels inside. -/
def Composing.shallow : Composing where
  environment := {}
  mark := Mark.inception
  node :=
    { operators := { inception := some ⟨.lens, .finite 1⟩ },
      value := some (.bool true) }
  templates :=
    [.branch
      { path := "a", operators := { inception := some ⟨.zip, .finite 5⟩ } }
      [.branch { path := "b" } []]]
  table := {}

/-- An outermost depth of one level refuses the inception inside, whatever its own depth. -/
theorem nesting_within_one_level :
    Composing.shallow.run {} {} = (.error (.depthExceeded .zip), {}) := by
  have reached :
      ∃ inner,
        Nested {} {} Composing.shallow [.finite 5, .finite 1] inner ∧
          inner.node.ready.mode = some .zip ∧ inner.table = {} := by
    refine ⟨_, .deeper .outermost (.nests rfl rfl .refl rfl rfl rfl), ?_, ?_⟩
    · rfl
    · rfl
  rcases reached with ⟨inner, nested, mode_eq, table_eq⟩
  have spent : ¬HaveLeft [.finite 5, .finite 1] :=
    fun left => absurd (left 1 _ rfl) (lt_irrefl _)
  rw [← table_eq]
  exact ((nesting_within_depths nested mode_eq).2.2.2 spent).2

end Template

end Stencil
