import SkySql.Proofs.Warnings

set_option autoImplicit false

/-!
What the index pass leaves alone. It rewrites eligible tests, for a point in a circle, box or polygon,
and comparisons with the text of a test. A statement without either comes out as it went in, with one
exception: for a test of a point against a point there is no index call, but the coordinates of the
first point are rendered before that is noticed, and an unresolved region in them stops the pass.
-/

namespace SkySql

/-- Frames that need no rotation: one of them is not given, or no rotation leads from one to the
other. -/
def Unrotated (source target : Option String) : Prop :=
  ∀ first ∈ source, ∀ second ∈ target, Frame.rotationByName first second = .ok none

theorem sameFrame_iff {source target : Option String} :
    sameFrame source target = true ↔ Unrotated source target := by
  cases source with
  | none => exact ⟨fun _ _ => nofun, fun _ => rfl⟩
  | some first =>
      cases target with
      | none => exact ⟨fun _ _ _ _ => nofun, fun _ => rfl⟩
      | some second =>
          simp only [Unrotated, Option.mem_some_iff, forall_eq']
          unfold sameFrame
          dsimp only
          split
          · next known => exact ⟨fun _ => known, fun _ => rfl⟩
          · next other => exact ⟨nofun, fun known => (other known).elim⟩

/-- A test for a point in a circle, box or polygon, all given by constructors of valid arity, in
frames that need no rotation. -/
def Expr.Eligible (expr : Expr) : Prop :=
  ∃ source x y shape target args,
    expr = .predicate .contains (.geometry .point source [x, y]) (.geometry shape target args) ∧
      shape ≠ .point ∧ shape.takes args.length = true ∧ Unrotated source target

/-- If the expression is a test of a point against a point, in frames that need no rotation, there is
no unresolved region in the coordinates of the first. -/
def Expr.Clear (expr : Expr) : Prop :=
  ∀ source x y target a b,
    expr = .predicate .contains (.geometry .point source [x, y]) (.geometry .point target [a, b]) →
      Unrotated source target → RegionFree (exprNodes [x, y])

def Expr.search? : Expr → Option Search
  | .predicate test lhs rhs => SkySql.search? test lhs rhs
  | _ => none

theorem Expr.search?_eq_some_iff {expr : Expr} {search : Search} :
    expr.search? = some search ↔
      ∃ source target, Unrotated source target ∧ search.shape.takes search.args.length = true ∧
        expr = .predicate .contains (.geometry .point source [search.x, search.y])
          (.geometry search.shape target search.args) := by
  constructor
  · intro asked
    cases expr with
    | predicate test lhs rhs =>
        obtain ⟨rfl, source, target, same, valid, rfl, rfl⟩ := SkySql.search?_eq_some_iff.mp asked
        exact ⟨source, target, sameFrame_iff.mp same, valid, rfl⟩
    | _ => cases asked
  · intro ⟨source, target, unrotated, valid, same⟩
    subst same
    exact SkySql.search?_eq_some_iff.mpr
      ⟨rfl, source, target, sameFrame_iff.mpr unrotated, valid, rfl, rfl⟩

theorem Expr.eligible_iff {expr : Expr} :
    expr.Eligible ↔ ∃ search ∈ expr.search?, search.shape ≠ .point := by
  constructor
  · intro ⟨source, x, y, shape, target, args, same, other, valid, unrotated⟩
    exact ⟨⟨x, y, shape, args⟩,
      Expr.search?_eq_some_iff.mpr ⟨source, target, unrotated, valid, same⟩, other⟩
  · intro ⟨search, asked, other⟩
    obtain ⟨source, target, unrotated, valid, same⟩ := Expr.search?_eq_some_iff.mp asked
    exact ⟨source, search.x, search.y, search.shape, target, search.args, same, other, valid,
      unrotated⟩

theorem Expr.clear_iff {expr : Expr} :
    expr.Clear ↔ ∀ search ∈ expr.search?, search.shape = .point →
      RegionFree (exprNodes [search.x, search.y]) := by
  constructor
  · intro clear search asked point
    obtain ⟨source, target, unrotated, valid, same⟩ := Expr.search?_eq_some_iff.mp asked
    rw [point] at valid same
    obtain ⟨a, b, taken⟩ := List.length_eq_two.mp (by simpa [Shape.takes] using valid)
    rw [taken] at same
    exact clear source search.x search.y target a b same unrotated
  · intro free source x y target a b same unrotated
    exact free ⟨x, y, .point, [a, b]⟩
      (Expr.search?_eq_some_iff.mpr ⟨source, target, unrotated, rfl, same⟩) rfl

instance (expr : Expr) : Decidable expr.Eligible := decidable_of_iff' _ Expr.eligible_iff

instance (expr : Expr) : Decidable expr.Clear := decidable_of_iff' _ Expr.clear_iff

theorem Expr.clear_of_search?_none {expr : Expr} (unasked : expr.search? = none) : expr.Clear := by
  rw [Expr.clear_iff, unasked]
  intro search asked
  cases asked

/-- Expressions that the index pass can leave alone without a warning. -/
structure Idle (nodes : List Expr) (warnings : List String) : Prop where
  silent : warnings = []
  clear : ∀ node ∈ nodes, node.Clear

namespace Idle

variable {before after : List Expr} {warnings first second : List String} {node : Expr}

theorem append (start : Idle before first) (rest : Idle after second) :
    Idle (before ++ after) (first ++ second) where
  silent := by rw [start.silent, rest.silent, List.append_nil]
  clear := List.forall_mem_append.mpr ⟨start.clear, rest.clear⟩

theorem nil : Idle [] [] := ⟨rfl, List.forall_mem_nil _⟩

theorem additive : Correspondence.Additive fun before _ warnings => Idle before warnings :=
  ⟨nil, append⟩

theorem kept (operands : Idle before warnings) (clear : node.Clear) :
    Idle (before ++ [node]) warnings where
  silent := operands.silent
  clear := List.forall_mem_append.mpr ⟨operands.clear, List.forall_mem_singleton.mpr clear⟩

theorem ordinary (operands : Idle before warnings) (unasked : node.search? = none) :
    Idle (before ++ [node]) warnings :=
  operands.kept (Expr.clear_of_search?_none unasked)

end Idle

/-- An expression that is no marked text and is left as it is. -/
structure Untouched (source result : Expr) (warnings : List String) : Prop where
  same : result = source
  unmarked : source.isPredicateText = false
  idle : Idle source.nodes warnings

def identity : Correspondence where
  expr := Untouched
  statement source result warnings := result = source ∧ Idle source.nodes warnings
  table source result warnings := result = source ∧ Idle source.nodes warnings

section Identity

open Correspondence

variable {warnings first second : List String}

theorem identity_expr (source result : Expr) (warnings : List String)
    (inner : identity.expr source result warnings) : result = source :=
  inner.same

theorem identity_idle (source result : Expr) (warnings : List String)
    (inner : identity.expr source result warnings) : Idle source.nodes warnings :=
  inner.idle

theorem identity_exprs {sources results : List Expr}
    (each : Each identity.expr sources results warnings) :
    results = sources ∧ Idle (exprNodes sources) warnings := by
  refine ⟨each.eq_of identity_expr, ?_⟩
  exact each.read Idle.additive everywhere identity_idle

theorem identity_query {source result : Query}
    (query : identity.OfQuery source result warnings) :
    result = source ∧ Idle source.nodes warnings := by
  refine ⟨query.eq_of identity_expr fun _ _ _ inner => inner.1, ?_⟩
  exact query.read Idle.additive everywhere identity_idle fun _ _ _ inner => inner.2

theorem identity_spec {source result : JoinSpec}
    (spec : identity.OfSpec source result warnings) :
    result = source ∧ Idle (source.read everywhere) warnings := by
  refine ⟨spec.eq_of identity_expr, ?_⟩
  exact spec.read Idle.additive everywhere identity_idle

/-- What an expression has to be for the index pass to leave it alone, or to fail in a way that is
allowed. -/
structure Ineligible (allowed : Error → Prop) (expr : Expr) : Prop where
  ineligible : ¬expr.Eligible
  unmarked : expr.isPredicateText = false
  clear : expr.Clear ∨ ∀ text, allowed (.unresolvedRegion text)

variable {allowed : Error → Prop}

theorem identity_structural : identity.Structural (Ineligible allowed) where
  leaf {expr} leaf fits := by
    refine ⟨rfl, fits.unmarked, rfl, ?_⟩
    cases expr with
    | literal | column | sql | region =>
        exact List.forall_mem_singleton.mpr (Expr.clear_of_search?_none rfl)
    | _ => cases leaf
  binary _ left right := by
    rw [left.same, right.same]
    exact ⟨rfl, rfl, (left.idle.append right.idle).ordinary rfl⟩
  unary _ inner := by
    rw [inner.same]
    exact ⟨rfl, rfl, inner.idle.ordinary rfl⟩
  subquery _ inner := by
    rw [inner.1]
    exact ⟨rfl, rfl, inner.2.ordinary rfl⟩
  setOperation left right := by
    rw [left.1, right.1]
    exact ⟨rfl, left.2.append right.2⟩
  statementText _ := ⟨rfl, .nil⟩
  table _ _ := ⟨rfl, .nil⟩
  join left right spec := by
    rw [left.1, right.1, (identity_spec spec).1]
    exact ⟨rfl, left.2.append (right.2.append (identity_spec spec).2)⟩
  tableText _ := ⟨rfl, .nil⟩

theorem identity_congruent : identity.Congruent (Ineligible allowed) where
  toStructural := identity_structural
  geometry _ each := by
    obtain ⟨same, idle⟩ := identity_exprs each
    rw [same]
    exact ⟨rfl, rfl, idle.ordinary rfl⟩
  accessor _ inner := by
    rw [inner.same]
    exact ⟨rfl, rfl, inner.idle.ordinary rfl⟩
  function _ each := by
    obtain ⟨same, idle⟩ := identity_exprs each
    rw [same]
    exact ⟨rfl, rfl, idle.ordinary rfl⟩
  geometryFunction _ each := by
    obtain ⟨same, idle⟩ := identity_exprs each
    rw [same]
    exact ⟨rfl, rfl, idle.ordinary rfl⟩
  comparison _ left right _ := by
    rw [left.same, right.same]
    exact ⟨rfl, rfl, (left.idle.append right.idle).ordinary rfl⟩
  select inner := by
    obtain ⟨same, idle⟩ := identity_query inner
    rw [same]
    exact ⟨rfl, idle⟩
  derived _ inner := by
    rw [inner.1]
    exact ⟨rfl, inner.2⟩

/-- There is no call for a point, and what can fail before that is noticed is to render the
coordinates. -/
theorem Search.call?_of_point (config : DialectConfig) {search : Search}
    (valid : search.shape.takes search.args.length = true) (point : search.shape = .point) :
    Fitting (fun e => (∃ text, e = .unresolvedRegion text) ∧
        ¬RegionFree (exprNodes [search.x, search.y]))
      (fun call => call = none ∧ RegionFree (exprNodes [search.x, search.y]))
      (search.call? config) := by
  have rendered := Search.call?_ok_iff config valid
  rw [Search.regionFree_operands_iff] at rendered
  cases found : search.call? config with
  | error e =>
      refine ⟨Search.call?_eq_error valid found, ?_⟩
      intro free
      obtain ⟨call, made⟩ := rendered.mpr ⟨free, (absurd point ·)⟩
      rw [found] at made
      cases made
  | ok call =>
      obtain ⟨_, -, verdict⟩ := search.call?_verdict config valid
      have isCall := verdict.holds found
      refine ⟨?_, (rendered.mp ⟨call, found⟩).1⟩
      cases call with
      | none => rfl
      | some call => exact absurd point (isCall.mp rfl)

theorem identity_indexPass (config : DialectConfig) :
    identity.Closed (indexPass config) (Ineligible allowed) allowed := by
  apply identity_congruent.closed_indexPass
  · intro test lhs rhs lhs' rhs' first second _ left right unasked
    rw [left.same, right.same] at unasked ⊢
    exact ⟨rfl, rfl, (left.idle.append right.idle).ordinary unasked⟩
  · intro test lhs rhs lhs' rhs' search first second fits left right asked
    rw [left.same, right.same] at asked ⊢
    -- Any other shape would make the test eligible.
    have point : search.shape = .point := by
      by_contra other
      exact fits.ineligible (Expr.eligible_iff.mpr ⟨search, asked, other⟩)
    obtain ⟨-, _, _, -, valid, -, -⟩ := search?_eq_some_iff.mp asked
    apply (Search.call?_of_point config valid point).mono
    · intro e ⟨⟨text, isFault⟩, unclear⟩
      rw [isFault]
      rcases fits.clear with clear | any
      · exact absurd (Expr.clear_iff.mp clear search asked point) unclear
      · exact any text
    · intro call ⟨isNone, free⟩
      have clear : (Expr.predicate test lhs rhs).Clear := by
        rw [Expr.clear_iff]
        intro other same _
        cases asked.symm.trans same
        exact free
      rw [isNone]
      exact ⟨rfl, rfl, (left.idle.append right.idle).kept clear⟩
  · intro lhs op rhs lhs' rhs' first second _ left right marked
    rw [left.same, right.same, left.unmarked, right.unmarked] at marked
    cases marked

end Identity

/-- The index pass leaves a statement without eligible tests and without marked text exactly as it
is, so that it makes no difference whether the index is used, unless there is an unresolved region in
the coordinates of a point that is tested against another point. Then the pass fails on the region. -/
theorem indexPass_keeps_ineligible (config : DialectConfig) (statement : Statement)
    (ineligible : ∀ node ∈ statement.nodes, ¬node.Eligible)
    (unmarked : ∀ node ∈ statement.nodes, node.isPredicateText = false) :
    ((∀ node ∈ statement.nodes, node.Clear) →
      (indexPass config).run statement = .ok ⟨statement, []⟩ ∧
      compile { config with spatialIndex := true } statement =
        compile { config with spatialIndex := false } statement) ∧
    (¬(∀ node ∈ statement.nodes, node.Clear) →
      ∃ text, (indexPass config).run statement = .error (.unresolvedRegion text) ∧
        compile { config with spatialIndex := true } statement =
          .error (.unresolvedRegion text)) := by
  constructor
  · intro clear
    have closed : identity.Closed (indexPass config) (Ineligible fun _ => False) fun _ => False :=
      identity_indexPass config
    have fitting := closed.run statement fun node membership =>
      ⟨ineligible node membership, unmarked node membership, .inl (clear node membership)⟩
    cases ran : (indexPass config).run statement with
    | error e => rw [ran] at fitting; exact fitting.elim
    | ok output =>
        rw [ran] at fitting
        obtain ⟨same, idle⟩ := fitting
        have whole : output = ⟨statement, []⟩ := by rw [← same, ← idle.silent]
        rw [whole] at ran ⊢
        refine ⟨rfl, ?_⟩
        change Pipeline.compile [indexPass config, dialectPass config] statement =
          Pipeline.compile [dialectPass config] statement
        rw [Pipeline.compile_cons ran]
        cases Pipeline.compile [dialectPass config] statement <;> rfl
  · intro unclear
    have closed : identity.Closed (indexPass config)
        (Ineligible fun e => ∃ text, e = .unresolvedRegion text)
        fun e => ∃ text, e = .unresolvedRegion text := identity_indexPass config
    have fitting := closed.run statement fun node membership =>
      ⟨ineligible node membership, unmarked node membership, .inr fun text => ⟨text, rfl⟩⟩
    cases ran : (indexPass config).run statement with
    | error e =>
        rw [ran] at fitting
        obtain ⟨text, rfl⟩ := fitting
        refine ⟨text, rfl, ?_⟩
        change Pipeline.compile [indexPass config, dialectPass config] statement = _
        simp only [Pipeline.compile, Pipeline.run, ran]
        rfl
    | ok output =>
        rw [ran] at fitting
        obtain ⟨-, idle⟩ := fitting
        exact absurd idle.clear unclear

def pointTest (x : Expr) : Statement :=
  .select { items := [.expr (.predicate .contains
    (.geometry .point none [x, .number "0"])
    (.geometry .point none [.number "0", .number "0"])) none] }

/-- It is left to the dialect pass. -/
theorem indexPass_keeps_ineligible_point :
    compile {} (pointTest (.named "ra")) =
      compile { spatialIndex := false } (pointTest (.named "ra")) :=
  ((indexPass_keeps_ineligible {} _ (by decide) (by decide)).1 (by decide)).2

/-- The test with the coordinate system of a region for a coordinate. -/
def regionPointTest : Statement :=
  pointTest (.accessor .coordSystem (.region ⟨.not, none, [.concrete (.point ⟨0.5, 0.25⟩)]⟩))

/-- The index pass fails on it, though there is nothing in it for the index and the dialect pass has
no use for the region. -/
theorem indexPass_fails_on_point :
    (∀ node ∈ regionPointTest.nodes, ¬node.Eligible) ∧
    (∀ node ∈ regionPointTest.nodes, node.isPredicateText = false) ∧
    (∃ text, (indexPass {}).run regionPointTest = .error (.unresolvedRegion text)) ∧
    (∃ text, compile {} regionPointTest = .error (.unresolvedRegion text)) ∧
    compile { spatialIndex := false } regionPointTest =
      .ok ⟨"SELECT (POINT('unknown', 0)) ~ (POINT(0, 0))", []⟩ :=
  ⟨by decide, by decide, ⟨_, rfl⟩, ⟨_, rfl⟩, rfl⟩

end SkySql
