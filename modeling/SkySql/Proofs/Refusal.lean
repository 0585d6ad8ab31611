import SkySql.Proofs.Index.Eligibility

set_option autoImplicit false

/-!
Calls of `REGION` are refused. The refusal is a rule of the dialect pass, so it holds for all calls
that are still there when this pass begins. The index pass keeps every call that is not inside a test
for which it writes a call of the index; the coordinates of such a test become text before the dialect
pass has seen them, and a call of `REGION` among them gets through.
-/

namespace SkySql

def Expr.isRegionCall : Expr → Bool
  | .geometryFunction .region _ => true
  | _ => false

/-- Expressions of which none is a call of `REGION`. -/
abbrev CallFree (nodes : List Expr) : Prop := ∀ node ∈ nodes, node.isRegionCall = false

theorem callFree_append {before after : List Expr} (first : CallFree before)
    (second : CallFree after) : CallFree (before ++ after) :=
  List.forall_mem_append.mpr ⟨first, second⟩

section Nodes

variable {shut : Expr → Bool} {node node' : Expr} {operands operands' : List Expr}

theorem callFree_with (inside : CallFree operands) (other : node.isRegionCall = false) :
    CallFree ((outsideOf shut).expr node operands) := by
  refine callFree_append ?_ (List.forall_mem_singleton.mpr other)
  split
  · exact List.forall_mem_nil _
  · exact inside

/-- Nothing inside a shut expression is looked at. -/
theorem callFree_shut (isShut : shut node = true) (other : node.isRegionCall = false) :
    CallFree ((outsideOf shut).expr node operands) := by
  rw [outsideOf_expr, if_pos isShut]
  exact List.forall_mem_singleton.mpr other

/-- A node that is kept, and shut only if it was. -/
theorem callFree_kept (operands_free : CallFree operands' → CallFree operands)
    (still : shut node' = true → shut node = true) (same : node'.isRegionCall = node.isRegionCall)
    (free : CallFree ((outsideOf shut).expr node' operands')) :
    CallFree ((outsideOf shut).expr node operands) := by
  obtain ⟨inside, own⟩ := List.forall_mem_append.mp free
  have other : node.isRegionCall = false := by
    rw [← same]
    exact own node' (List.mem_singleton_self _)
  cases isShut : shut node with
  | true => exact callFree_shut isShut other
  | false =>
      have after : ¬shut node' = true := by
        intro isShut'
        rw [still isShut'] at isShut
        cases isShut
      rw [if_neg after] at inside
      exact callFree_with (operands_free inside) other

end Nodes

/-- No call of `REGION` outside of shut expressions passes. -/
def refusal (shut : Expr → Bool) : Correspondence where
  expr source _ _ := CallFree (source.read (outsideOf shut))
  statement source _ _ := CallFree (source.read (outsideOf shut))
  table source _ _ := CallFree (source.read (outsideOf shut))

section Refusal

open Correspondence

variable {shut : Expr → Bool} {warnings : List String}

theorem callFree_additive : Additive fun before _ _ => CallFree before :=
  ⟨List.forall_mem_nil _, callFree_append⟩

theorem refusal_expr (source result : Expr) (warnings : List String)
    (inner : (refusal shut).expr source result warnings) :
    CallFree (source.read (outsideOf shut)) :=
  inner

theorem refusal_exprs {sources results : List Expr}
    (each : Each (refusal shut).expr sources results warnings) :
    CallFree (readExprs (outsideOf shut) sources) :=
  each.read callFree_additive (outsideOf shut) refusal_expr

theorem refusal_query {source result : Query}
    (query : (refusal shut).OfQuery source result warnings) :
    CallFree (source.read (outsideOf shut)) :=
  query.read callFree_additive (outsideOf shut) refusal_expr fun _ _ _ inner => inner

theorem refusal_structural : (refusal shut).Structural fun _ => True where
  leaf {expr} leaf _ := by
    cases expr with
    | literal | column | sql | region => exact callFree_with (List.forall_mem_nil _) rfl
    | _ => cases leaf
  binary _ left right := callFree_with (callFree_append left right) rfl
  unary _ inner := callFree_with inner rfl
  subquery _ inner := callFree_with inner rfl
  setOperation left right := callFree_append left right
  statementText _ := List.forall_mem_nil _
  table _ _ := List.forall_mem_nil _
  join left right spec := callFree_append left
    (callFree_append right (spec.read callFree_additive (outsideOf shut) refusal_expr))
  tableText _ := List.forall_mem_nil _

theorem refusal_dialectPass (shut : Expr → Bool) (config : DialectConfig) :
    (refusal shut).Closed (dialectPass config) (fun _ => True) fun _ => True where
  toStructural := refusal_structural
  geometry _ each := by
    apply Rule.Fits.text
    apply fitting_of_eq_ok fun _ => trivial
    intro text _
    exact callFree_with (refusal_exprs each) rfl
  predicate _ left right := by
    apply Rule.Fits.test
    apply fitting_of_eq_ok fun _ => trivial
    intro text _
    exact callFree_with (callFree_append left right) rfl
  accessor _ inner := by
    apply Rule.Fits.text
    apply fitting_of_eq_ok fun _ => trivial
    intro text _
    exact callFree_with inner rfl
  function _ each := by
    apply Rule.Fits.lifted
    apply fitting_of_eq_ok fun _ => trivial
    intro rewrite _
    exact callFree_with (refusal_exprs each) rfl
  geometryFunction {kind _ _ _} _ each := by
    have inside := refusal_exprs each
    cases kind with
    | area =>
        apply Rule.Fits.warned
        exact callFree_with inside rfl
    | distance | centroid =>
        apply Rule.Fits.text
        apply fitting_of_eq_ok fun _ => trivial
        intro text _
        exact callFree_with inside rfl
    | region => exact fun earlier => ⟨.error _, [], by rw [List.append_nil]; rfl, trivial⟩
  comparison {lhs op rhs _ _ _ _} _ left right := by
    have free : CallFree ((Expr.comparison lhs op rhs).read (outsideOf shut)) :=
      callFree_with (callFree_append left right) rfl
    apply Rule.Fits.comparison rfl
    · intro _
      apply fitting_of_eq_ok fun _ => trivial
      intro text _
      exact free
    · intro _
      exact free
  query inner := by
    apply Rule.Fits.text
    apply fitting_of_eq_ok fun _ => trivial
    intro text _
    exact refusal_query inner
  derived _ inner := by
    apply Rule.Fits.text
    apply fitting_of_eq_ok fun _ => trivial
    intro text _
    exact inner

end Refusal

/-- The constructor that an expression is, without its arguments: shape, frame and how many they
are. -/
def Expr.outline? : Expr → Option (Shape × Option String × Nat)
  | .geometry shape frame args => some (shape, frame, args.length)
  | _ => none

theorem Expr.outline?_eq_some {expr : Expr} {shape : Shape} {frame : Option String} {count : Nat}
    (known : expr.outline? = some (shape, frame, count)) :
    ∃ args, expr = .geometry shape frame args ∧ args.length = count := by
  cases expr with
  | geometry shape frame args =>
      cases known
      exact ⟨args, rfl, rfl⟩
  | _ => cases known

/-- Whether a test is eligible can be seen from the outlines of its operands. -/
theorem Expr.Eligible.of_outlines {test : GeometryTest} {lhs rhs lhs' rhs' : Expr}
    (eligible : (Expr.predicate test lhs' rhs').Eligible) (left : lhs'.outline? = lhs.outline?)
    (right : rhs'.outline? = rhs.outline?) : (Expr.predicate test lhs rhs).Eligible := by
  obtain ⟨source, x, y, shape, target, args, same, other, valid, unrotated⟩ := eligible
  cases same
  obtain ⟨coordinates, rfl, pair⟩ := Expr.outline?_eq_some left.symm
  obtain ⟨args', rfl, count⟩ := Expr.outline?_eq_some right.symm
  obtain ⟨x', y', rfl⟩ := List.length_eq_two.mp pair
  rw [← count] at valid
  exact ⟨source, x', y', shape, target, args', rfl, other, valid, unrotated⟩

/-- The expressions that are not inside an eligible test. -/
abbrev beyondIndex : Reading Expr := outsideOf fun expr => decide expr.Eligible

/-- The index pass keeps the outlines of constructors, and the calls of `REGION` that are not inside an
eligible test. -/
def persistence : Correspondence where
  expr source result _ := result.outline? = source.outline? ∧
    (CallFree (result.read beyondIndex) → CallFree (source.read beyondIndex))
  statement source result _ :=
    CallFree (result.read beyondIndex) → CallFree (source.read beyondIndex)
  table source result _ :=
    CallFree (result.read beyondIndex) → CallFree (source.read beyondIndex)

section Persistence

open Correspondence

variable {first second warnings : List String}

theorem persistence_append {before before' after after' : List Expr}
    (start : CallFree before' → CallFree before) (rest : CallFree after' → CallFree after)
    (free : CallFree (before' ++ after')) : CallFree (before ++ after) := by
  obtain ⟨inStart, inRest⟩ := List.forall_mem_append.mp free
  exact callFree_append (start inStart) (rest inRest)

theorem persistence_additive :
    Additive fun before after _ => CallFree after → CallFree before :=
  ⟨id, persistence_append⟩

theorem persistence_expr (source result : Expr) (warnings : List String)
    (inner : persistence.expr source result warnings) :
    CallFree (result.read beyondIndex) → CallFree (source.read beyondIndex) :=
  inner.2

theorem persistence_exprs {sources results : List Expr}
    (each : Each persistence.expr sources results warnings) :
    CallFree (readExprs beyondIndex results) → CallFree (readExprs beyondIndex sources) :=
  each.read persistence_additive beyondIndex persistence_expr

/-- An expression of another kind is never shut. -/
theorem open_of_search?_none {node : Expr} (unasked : node.search? = none) :
    decide node.Eligible = false := by
  rw [decide_eq_false_iff_not, Expr.eligible_iff, unasked]
  rintro ⟨search, asked, -⟩
  cases asked

/-- A node that asks for no search, with other operands. -/
theorem persistence_kept {node node' : Expr} {operands operands' : List Expr}
    (inside : CallFree operands' → CallFree operands) (unasked : node'.search? = none)
    (same : node'.isRegionCall = node.isRegionCall)
    (free : CallFree (beyondIndex.expr node' operands')) :
    CallFree (beyondIndex.expr node operands) := by
  refine callFree_kept inside ?_ same free
  intro isShut
  rw [open_of_search?_none unasked] at isShut
  cases isShut

theorem persistence_structural : persistence.Structural fun _ => True where
  leaf _ _ := ⟨rfl, id⟩
  binary _ left right := ⟨rfl, persistence_kept (persistence_append left.2 right.2) rfl rfl⟩
  unary _ inner := ⟨rfl, persistence_kept inner.2 rfl rfl⟩
  subquery _ inner := ⟨rfl, persistence_kept inner rfl rfl⟩
  setOperation left right := persistence_append left right
  statementText _ := id
  table _ _ := id
  join left right spec := persistence_append left (persistence_append right
    (spec.read persistence_additive beyondIndex persistence_expr))
  tableText _ := id

theorem persistence_congruent : persistence.Congruent fun _ => True where
  toStructural := persistence_structural
  geometry {_ _ args args' _} _ each := by
    have pairs : List.Forall₂ (fun _ _ => True) args args' := each.forall₂ fun _ _ _ _ => trivial
    refine ⟨?_, persistence_kept (persistence_exprs each) rfl rfl⟩
    rw [Expr.outline?, Expr.outline?, pairs.length_eq]
  accessor _ inner := ⟨rfl, persistence_kept inner.2 rfl rfl⟩
  function _ each := ⟨rfl, persistence_kept (persistence_exprs each) rfl rfl⟩
  geometryFunction {kind _ _ _} _ each := by
    refine ⟨rfl, persistence_kept (persistence_exprs each) rfl ?_⟩
    cases kind <;> rfl
  comparison _ left right _ :=
    ⟨rfl, persistence_kept (persistence_append left.2 right.2) rfl rfl⟩
  select inner :=
    inner.read persistence_additive beyondIndex persistence_expr fun _ _ _ inner => inner
  derived _ inner := inner

theorem persistence_predicate {test : GeometryTest} {lhs rhs lhs' rhs' : Expr}
    (left : persistence.expr lhs lhs' first) (right : persistence.expr rhs rhs' second) :
    persistence.expr (.predicate test lhs rhs) (.predicate test lhs' rhs') warnings := by
  refine ⟨rfl, callFree_kept (persistence_append left.2 right.2) ?_ rfl⟩
  intro isShut
  exact decide_eq_true ((of_decide_eq_true isShut).of_outlines left.1 right.1)

theorem Expr.callFree_of_asNumber? (expr : Expr) {value : Float}
    (number : expr.asNumber? = some value) : CallFree (expr.read beyondIndex) := by
  match expr with
  | .literal _ => exact callFree_with (List.forall_mem_nil _) rfl
  | .unary .neg operand =>
      rw [Expr.asNumber?, Option.map_eq_some_iff] at number
      obtain ⟨inner, number, -⟩ := number
      exact callFree_with (operand.callFree_of_asNumber? number) rfl

theorem callFree_of_testCondition {lhs rhs : Expr} {op : CompareOp} {text : String}
    (made : testCondition lhs op rhs = .ok text) :
    CallFree (lhs.read beyondIndex) ∧ CallFree (rhs.read beyondIndex) := by
  have ofText {expr : Expr} (marked : expr.isPredicateText = true) :
      CallFree (expr.read beyondIndex) := by
    cases expr with
    | sql => exact callFree_with (List.forall_mem_nil _) rfl
    | _ => cases marked
  rcases testCondition_sides made with ⟨⟨_, number⟩, marked⟩ | ⟨marked, _, number⟩
  · exact ⟨lhs.callFree_of_asNumber? number, ofText marked⟩
  · exact ⟨ofText marked, rhs.callFree_of_asNumber? number⟩

theorem persistence_indexPass (config : DialectConfig) :
    persistence.Closed (indexPass config) (fun _ => True) fun _ => True := by
  apply persistence_congruent.closed_indexPass
  · intro test lhs rhs lhs' rhs' first second _ left right _
    exact persistence_predicate left right
  · intro test lhs rhs lhs' rhs' search first second _ left right asked
    apply fitting_of_eq_ok fun _ => trivial
    intro call found
    cases call with
    | none => exact persistence_predicate left right
    | some call =>
        -- There is a call, so the test is eligible, and it was so before the walk.
        obtain ⟨-, _, _, -, valid, -, -⟩ := search?_eq_some_iff.mp asked
        obtain ⟨_, -, verdict⟩ := search.call?_verdict config valid
        have eligible : (Expr.predicate test lhs' rhs').Eligible :=
          Expr.eligible_iff.mpr ⟨search, asked, (verdict.holds found).mp rfl⟩
        have isShut := decide_eq_true (eligible.of_outlines left.1 right.1)
        exact ⟨rfl, fun _ => callFree_shut isShut rfl⟩
  · intro lhs op rhs lhs' rhs' first second _ left right _
    apply fitting_of_eq_ok fun _ => trivial
    intro text made
    obtain ⟨inLeft, inRight⟩ := callFree_of_testCondition made
    exact ⟨rfl, fun _ => callFree_with (callFree_append (left.2 inLeft) (right.2 inRight)) rfl⟩

end Persistence

/-- What the dialect pass compiles has no call of `REGION` in it. -/
theorem callFree_of_dialectPass {shut : Expr → Bool} {config : DialectConfig}
    {statement : Statement} {output : PassOutput}
    (ran : (dialectPass config).run statement = .ok output) :
    CallFree (statement.read (outsideOf shut)) := by
  have refused := (refusal_dialectPass shut config).run statement fun _ _ => trivial
  rw [ran] at refused
  exact refused

theorem callFree_of_pipeline {config : DialectConfig} {statement : Statement}
    {output : PassOutput}
    (ran : Pipeline.run [indexPass config, dialectPass config] statement = .ok output) :
    CallFree (statement.read beyondIndex) := by
  obtain ⟨first, indexed, ran⟩ := bind_eq_ok_iff.mp ran
  obtain ⟨last, further, -⟩ := bind_eq_ok_iff.mp ran
  obtain ⟨second, rewritten, -⟩ := bind_eq_ok_iff.mp further
  have kept := (persistence_indexPass config).run statement fun _ _ => trivial
  rw [indexed] at kept
  exact kept (callFree_of_dialectPass rewritten)

/-- If nothing with a call of `REGION` gets through the passes, a statement with one is not
compiled. -/
theorem Pipeline.compile_eq_error {passes : Pipeline} {statement : Statement} {nodes : List Expr}
    (refused : ∀ {output}, passes.run statement = .ok output → CallFree nodes)
    (call : ∃ node ∈ nodes, node.isRegionCall = true) :
    ∃ e, passes.compile statement = .error e := by
  cases ran : passes.run statement with
  | error e =>
      rw [Pipeline.compile, ran]
      exact ⟨e, rfl⟩
  | ok output =>
      obtain ⟨node, membership, isCall⟩ := call
      have other := refused ran node membership
      rw [isCall] at other
      cases other

/-- Without the spherical index, a statement with a call of `REGION` anywhere is refused. With it, a
statement with a call that is not inside an eligible test is refused. -/
theorem compile_refuses_region_calls (config : DialectConfig) (statement : Statement) :
    (config.spatialIndex = false →
      (∃ node ∈ statement.nodes, node.isRegionCall = true) →
        ∃ e, compile config statement = .error e) ∧
    (config.spatialIndex = true →
      (∃ node ∈ statement.read beyondIndex, node.isRegionCall = true) →
        ∃ e, compile config statement = .error e) := by
  constructor
  · intro direct call
    rw [compile, pipeline, direct]
    refine Pipeline.compile_eq_error (fun ran => ?_) call
    obtain ⟨first, rewritten, -⟩ := bind_eq_ok_iff.mp ran
    have free : CallFree (statement.read (outsideOf fun _ => false)) :=
      callFree_of_dialectPass rewritten
    exact free
  · intro indexed call
    rw [compile, pipeline, indexed]
    exact Pipeline.compile_eq_error callFree_of_pipeline call

def regionCall : Expr := .geometryFunction .region [.string "Circle 1 2 3"]

/-- A search in a circle, for a point with a call of `REGION` as its first coordinate. -/
def regionSearch : Statement :=
  .select {
    items := [.star none]
    tables := [.table "t" none]
    condition := some (.comparison (.number "1") .eq (.predicate .contains
      (.geometry .point none [regionCall, .named "dec"])
      (.geometry .circle none [.named "x", .named "y", .named "r"]))) }

/-- The search is refused without the index, and a test of a region against a column also with it. -/
theorem compile_refuses_region_calls_operand :
    (∃ e, compile { spatialIndex := false } regionSearch = .error e) ∧
    ∃ e, compile {} (.select { items := [.expr
      (.predicate .contains (.named "position") regionCall) none] }) = .error e :=
  ⟨(compile_refuses_region_calls { spatialIndex := false } _).1 rfl (by decide),
    (compile_refuses_region_calls {} _).2 rfl (by decide)⟩

/-- With the index the search is compiled, with the call in the text. -/
theorem compile_lets_region_call_through :
    (∃ node ∈ regionSearch.nodes, node.isRegionCall = true) ∧
    compile {} regionSearch =
      .ok ⟨"SELECT * FROM t WHERE q3c_join(REGION('Circle 1 2 3'), dec, x, y, r)", []⟩ :=
  ⟨by decide, rfl⟩

end SkySql
