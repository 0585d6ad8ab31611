import SkySql.Proofs.Observation

set_option autoImplicit false

/-!
Steps on one shared state, in any order. Warnings are only ever added, one at a time and by few kinds
of steps, and the request to drop a comparison is what the last step that had to do with it made of
it. A step that fails adds no warning and makes no request.
-/

namespace SkySql

section Steps

def stateAfter (steps : List Step) (start : PassState) : PassState :=
  (performAll steps start).foldl (fun _ result => result.2) start

@[simp] theorem stateAfter_cons (step : Step) (steps : List Step) (start : PassState) :
    stateAfter (step :: steps) start = stateAfter steps (step.perform.apply start).2 := rfl

/-- Every step starts from the state that the steps before it leave. -/
theorem getElem?_performAll (steps : List Step) (start : PassState) (i : Nat) :
    (performAll steps start)[i]? =
      steps[i]?.map fun step => step.perform.apply (stateAfter (steps.take i) start) := by
  induction steps generalizing start i with
  | nil => rfl
  | cons step steps inductionHypothesis =>
      cases i with
      | zero => rfl
      | succ i =>
          rw [performAll, List.getElem?_cons_succ, inductionHypothesis]
          rfl

/-- What a step does to the request to drop a comparison: it raises it, clears it, or leaves it. A
comparison rule clears it even if it fails. -/
def Step.effect : Step → Except Error StepOutcome → Option Bool
  | .raiseDiscard, _ => some true
  | .takeDiscard, _ | .dropComparison .., _ | .rule _ (.comparison ..), _ => some false
  | .rule _ (.predicate ..), .ok (.rewrite (.expr (.text _))) => some true
  | _, _ => none

/-- The effects of the steps of a run that have to do with the request, in their order. -/
def effects (steps : List Step) (start : PassState) : List Bool :=
  (steps.zip (performAll steps start)).filterMap fun performed => performed.1.effect performed.2.1

inductive Step.Warns : Step → String → Prop
  | warn (message : String) : Step.Warns (.warn message) message
  | area (config : DialectConfig) (args : List Expr) :
      Step.Warns (.rule (dialectPass config) (.geometryFunction .area args)) planarAreaWarning

/-- A step on the state itself, or a rule of one of the two passes. -/
def Step.Known : Step → Prop
  | .rule pass _ => ∃ config, pass = indexPass config ∨ pass = dialectPass config
  | _ => True

/-- What a step may do to the state that it finds. -/
structure Step.Lawful (step : Step) (state : PassState) (outcome : Except Error StepOutcome)
    (after : PassState) : Prop where
  discard : after.discard = (step.effect outcome).getD state.discard
  warnings : after.warnings = state.warnings ∨
    ∃ message, step.Warns message ∧ after.warnings = state.warnings ++ [message]
  failed : ∀ e, outcome = .error e →
    after.warnings = state.warnings ∧ (after.discard = true → state.discard = true)

end Steps

namespace Rule

variable {α β : Type}

def Keeps (rule : Rule α) : Prop := ∀ state, (rule.apply state).2 = state

theorem keeps_pure (a : α) : (pure a : Rule α).Keeps := fun _ => rfl

theorem keeps_lift (found : Except Error α) : (liftM found : Rule α).Keeps := fun _ => rfl

theorem Keeps.bind {rule : Rule α} {next : α → Rule β} (first : rule.Keeps)
    (second : ∀ a, (next a).Keeps) : (rule >>= next).Keeps := by
  intro state
  have kept := first state
  rw [apply_bind]
  rcases found : apply rule state with ⟨e | a, after⟩
  · rwa [found] at kept
  · rw [found] at kept
    dsimp only at kept
    rw [second a, kept]

theorem Keeps.map {rule : Rule α} (keeps : rule.Keeps) (f : α → β) : (f <$> rule).Keeps := by
  intro state
  rw [apply_map]
  exact keeps state

theorem keeps_text (found : Except Error String) :
    (do return .text (← found) : Rule (Rewrite α)).Keeps :=
  (keeps_lift found).bind fun _ => keeps_pure _

/-- A rule that raises the request exactly when it gives text, and does nothing else to the state. -/
def Requests (rule : Rule (Rewrite Expr)) : Prop :=
  ∀ state, (rule.apply state).2 = match (rule.apply state).1 with
    | .ok (.text _) => { state with discard := true }
    | _ => state

end Rule

section Rules

theorem apply_dropComparison (lhs : Expr) (op : CompareOp) (rhs : Expr) (state : PassState) :
    ((dropComparison lhs op rhs).apply state).2 = { state with discard := false } := by
  unfold dropComparison
  rw [Rule.apply_bind, Rule.apply_takeDiscard]
  cases state.discard with
  | false => rfl
  | true => cases testCondition lhs op rhs <;> rfl

theorem indexPredicate_requests (config : DialectConfig) (test : GeometryTest) (lhs rhs : Expr) :
    (indexPredicate config test lhs rhs).Requests := by
  intro state
  unfold indexPredicate
  cases asked : search? test lhs rhs with
  | none => rfl
  | some search =>
      cases found : search.call? config with
      | error e => simp only [found]; rfl
      | ok call => cases call <;> simp only [found] <;> rfl

theorem requests_text (found : Except Error String) :
    (do let text ← found; Rule.raiseDiscard; return .text text : Rule (Rewrite Expr)).Requests := by
  intro state
  cases found <;> rfl

end Rules

section Laws

variable {pass : Pass}

/-- Whether a step does what steps may do, from every state. -/
def Step.Obeys (step : Step) : Prop :=
  ∀ state, step.Lawful state (step.perform.apply state).1 (step.perform.apply state).2

/-- A rule that leaves the state as it is, for a node that has nothing to do with the request. -/
theorem obeys_of_keeps {node : Node} (keeps : (pass.rule node).Keeps)
    (aside : ∀ outcome, (Step.rule pass node).effect outcome = none) :
    (Step.rule pass node).Obeys := by
  intro state
  have kept : ((Step.rule pass node).perform.apply state).2 = state := by
    rw [Step.perform, Rule.apply_map]
    exact keeps state
  rw [kept]
  exact ⟨by rw [aside]; rfl, .inl rfl, fun e _ => ⟨rfl, id⟩⟩

theorem obeys_predicate {test : GeometryTest} {lhs rhs : Expr}
    (requests : (pass.predicate test lhs rhs).Requests) :
    (Step.rule pass (.predicate test lhs rhs)).Obeys := by
  intro state
  have requested := requests state
  rw [Step.perform, Rule.apply_map, Pass.rule, Rule.apply_map]
  generalize (pass.predicate test lhs rhs).apply state = run at requested ⊢
  obtain ⟨e | node | text, after⟩ := run
  · cases requested
    exact ⟨rfl, .inl rfl, fun _ _ => ⟨rfl, id⟩⟩
  · cases requested
    exact ⟨rfl, .inl rfl, fun _ _ => ⟨rfl, id⟩⟩
  · cases requested
    exact ⟨rfl, .inl rfl, by rintro e ⟨⟩⟩

theorem obeys_dropComparison (lhs : Expr) (op : CompareOp) (rhs : Expr) :
    (Step.dropComparison lhs op rhs).Obeys := by
  intro state
  rw [Step.perform, Rule.apply_map, apply_dropComparison]
  exact ⟨rfl, .inl rfl, fun _ _ => ⟨rfl, by simp⟩⟩

theorem obeys_comparison (rule : pass.comparison = dropComparison) (lhs : Expr) (op : CompareOp)
    (rhs : Expr) : (Step.rule pass (.comparison lhs op rhs)).Obeys := by
  intro state
  rw [Step.perform, Rule.apply_map, Pass.rule, Rule.apply_map, rule, apply_dropComparison]
  exact ⟨rfl, .inl rfl, fun _ _ => ⟨rfl, by simp⟩⟩

theorem obeys_area (config : DialectConfig) (args : List Expr) :
    (Step.rule (dialectPass config) (.geometryFunction .area args)).Obeys :=
  fun _ => ⟨rfl, .inr ⟨_, .area config args, rfl⟩, by rintro e ⟨⟩⟩

theorem obeys_indexPass (config : DialectConfig) (node : Node) :
    (Step.rule (indexPass config) node).Obeys := by
  cases node with
  | predicate test lhs rhs => exact obeys_predicate (indexPredicate_requests config test lhs rhs)
  | comparison lhs op rhs => exact obeys_comparison rfl lhs op rhs
  | geometry | accessor | function | geometryFunction | query | derived =>
      exact obeys_of_keeps (fun _ => rfl) fun _ => rfl

theorem obeys_dialectPass (config : DialectConfig) (node : Node) :
    (Step.rule (dialectPass config) node).Obeys := by
  cases node with
  | predicate test lhs rhs => exact obeys_predicate (requests_text _)
  | comparison lhs op rhs => exact obeys_comparison rfl lhs op rhs
  | geometryFunction function args =>
      cases function with
      | area => exact obeys_area config args
      | distance => exact obeys_of_keeps ((Rule.keeps_text _).map _) fun _ => rfl
      | centroid => exact obeys_of_keeps ((Rule.keeps_text _).map _) fun _ => rfl
      | region => exact obeys_of_keeps (fun _ => rfl) fun _ => rfl
  | function name args => exact obeys_of_keeps ((Rule.keeps_lift _).map _) fun _ => rfl
  | geometry | accessor | query | derived =>
      exact obeys_of_keeps ((Rule.keeps_text _).map _) fun _ => rfl

theorem Step.Known.obeys {step : Step} (known : step.Known) : step.Obeys := by
  cases step with
  | raiseDiscard => exact fun _ => ⟨rfl, .inl rfl, by rintro e ⟨⟩⟩
  | takeDiscard => exact fun _ => ⟨rfl, .inl rfl, by rintro e ⟨⟩⟩
  | warn message => exact fun _ => ⟨rfl, .inr ⟨message, .warn message, rfl⟩, by rintro e ⟨⟩⟩
  | dropComparison lhs op rhs => exact obeys_dropComparison lhs op rhs
  | rule pass node =>
      obtain ⟨config, rfl | rfl⟩ := known
      · exact obeys_indexPass config node
      · exact obeys_dialectPass config node

/-- The last step that had to do with the request decides it. -/
theorem discard_stateAfter {steps : List Step} (known : ∀ step ∈ steps, step.Known)
    (start : PassState) :
    (stateAfter steps start).discard = (effects steps start).getLast?.getD start.discard := by
  induction steps generalizing start with
  | nil => rfl
  | cons step steps inductionHypothesis =>
      obtain ⟨isKnown, others⟩ := List.forall_mem_cons.mp known
      have first := (isKnown.obeys start).discard
      have split : effects (step :: steps) start =
          (step.effect (step.perform.apply start).1).toList ++
            effects steps (step.perform.apply start).2 := by
        rw [effects, performAll, List.zip_cons_cons, List.filterMap_cons]
        cases step.effect (step.perform.apply start).1 <;> rfl
      -- The first step decides only if no later one has to do with the request.
      rw [stateAfter_cons, inductionHypothesis others, first, split, List.getLast?_append]
      cases step.effect (step.perform.apply start).1 <;>
        cases (effects steps (step.perform.apply start).2).getLast? <;> rfl

end Laws

/-- Any steps on one state, in any order: changes of the state itself, and rules of both passes on any
nodes, whether they fail or not. Each step adds at most one warning after the earlier ones, and only a
warning as such or the dialect rule for an area adds any. A step that fails adds none and does not
raise the request to drop a comparison. At the end the request stands as the last step that had to do
with it left it; in particular, from a state without one, it stands if and only if that step raised
it. -/
theorem session_lawful (steps : List Step) (known : ∀ step ∈ steps, step.Known)
    (start : PassState) :
    (∀ (i : Nat) (step : Step), steps[i]? = some step → ∃ outcome after,
      (performAll steps start)[i]? = some (outcome, after) ∧
      step.Lawful (stateAfter (steps.take i) start) outcome after) ∧
    (stateAfter steps start).discard = (effects steps start).getLast?.getD start.discard ∧
    (start.discard = false →
      ((stateAfter steps start).discard = true ↔ (effects steps start).getLast? = some true)) := by
  have decided := discard_stateAfter known start
  refine ⟨fun i step found => ?_, decided, fun clear => ?_⟩
  · refine ⟨_, _, by rw [getElem?_performAll, found]; rfl, ?_⟩
    exact (known step (List.mem_of_getElem? found)).obeys _
  · rw [decided, clear]
    cases (effects steps start).getLast? <;> simp

/-- A comparison of two columns cannot be dropped. The rule fails, and clears the request all the
same. -/
theorem session_lawful_failed_comparison :
    (∃ e after, (dropComparison (.named "a") .eq (.named "b")).apply ⟨true, []⟩ = (.error e, after)) ∧
      (stateAfter [.raiseDiscard,
        .rule (dialectPass {}) (.comparison (.named "a") .eq (.named "b"))] {}).discard = false := by
  refine ⟨⟨_, _, rfl⟩, ?_⟩
  rw [(session_lawful _ ?_ {}).2.1]
  · rfl
  · simp only [List.forall_mem_cons, List.not_mem_nil, false_imp_iff, implies_true, and_true]
    exact ⟨trivial, {}, .inr rfl⟩

end SkySql
