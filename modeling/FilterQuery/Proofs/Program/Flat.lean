import FilterQuery.Proofs.Query.Piece

/-!
Programs without their nesting. Whether a step fails, and which calls it reaches, is known from the
step alone. The main statement says that a program, however deep its conditions are nested, does to
a query what the calls do that it reaches, made one after another.
-/

namespace FilterQuery

namespace Call

/-- Why a call fails, if it does. The query does not matter. -/
def failure? : Call → Option Failure
  | .add condition => condition.refusal?.map .inapplicable
  | .equals .. | .excludes .. | .lessThan .. | .greaterThan .. | .anyOf .. | .noneOf .. => none
  | .line text =>
      match Clause.ofLine text with
      | .ok clause => clause.refusal?.map .inapplicable
      | .error cause => some cause
  | .document markup text =>
      match markup.document text with
      | .ok decoded => (decoded.clauses.findSome? Clause.refusal?).map .inapplicable
      | .error cause => some cause

/-- A call fails for its failure on every query. -/
theorem failure_run (query : Query) (call : Call) : (call.run query).failure = call.failure? := by
  cases call with
  | equals | excludes | lessThan | greaterThan | anyOf | noneOf => rfl
  | add condition => simp only [run, failure?, Attempt.failure_mapFailure, Query.failure_add]
  | line text =>
      simp only [run, failure?]
      cases Clause.ofLine text with
      | error cause => rfl
      | ok clause => simp only [Attempt.failure_mapFailure, Clause.failure_apply]
  | document markup text =>
      simp only [run, failure?]
      cases markup.document text with
      | error cause => rfl
      | ok decoded =>
          simp only [Attempt.failure_mapFailure, Document.apply, Clause.failure_applyAll]

/-- Calls in two rows are made row by row. -/
theorem runAll_append (query : Query) (first second : List Call) :
    runAll query (first ++ second) = runAll (runAll query first) second :=
  List.foldl_append

end Call

namespace Step

mutual

/-- Why a step fails, if it does: a call for its own failure, a body that is tried for that of its
first failing step. -/
def failure? : Step → Option Failure
  | .call made => made.failure?
  | .tryWhen condition body => if condition then firstFailure? body else none
  | .tryWhenNot condition body => if condition then none else firstFailure? body
  | .when .. | .whenNot .. | .preview _ | .pause => none

def firstFailure? : List Step → Option Failure
  | [] => none
  | step :: rest =>
      match step.failure? with
      | some cause => some cause
      | none => firstFailure? rest

end

mutual

/-- The calls that a step reaches, in their order. -/
def reached : Step → List Call
  | .call made => [made]
  | .when condition body => if condition then reachedByAll body else []
  | .whenNot condition body => if condition then [] else reachedByAll body
  | .tryWhen condition body => if condition then reachedByTrying body else []
  | .tryWhenNot condition body => if condition then [] else reachedByTrying body
  | .preview _ | .pause => []

/-- The calls that steps reach if all of them run. -/
def reachedByAll : List Step → List Call
  | [] => []
  | step :: rest => step.reached ++ reachedByAll rest

/-- The calls that steps reach if they run up to the first that fails. -/
def reachedByTrying : List Step → List Call
  | [] => []
  | step :: rest =>
      match step.failure? with
      | some _ => step.reached
      | none => step.reached ++ reachedByTrying rest

end

/-- The steps up to the first that fails, and this one. -/
def upToFailure : List Step → List Step
  | [] => []
  | step :: rest => step :: if step.failure?.isSome then [] else upToFailure rest

theorem firstFailure?_eq (body : List Step) : firstFailure? body = body.findSome? failure? := by
  induction body with
  | nil => rfl
  | cons step rest ih =>
      rw [firstFailure?, List.findSome?_cons, ih]
      cases step.failure? <;> rfl

theorem reachedByAll_eq (body : List Step) : reachedByAll body = body.flatMap reached := by
  induction body with
  | nil => rfl
  | cons step rest ih => rw [reachedByAll, List.flatMap_cons, ih]

theorem reachedByTrying_eq (body : List Step) :
    reachedByTrying body = (upToFailure body).flatMap reached := by
  induction body with
  | nil => rfl
  | cons step rest ih =>
      rw [reachedByTrying, upToFailure, List.flatMap_cons, ih]
      cases step.failure? <;> simp

mutual

/-- A step does what the calls do that it reaches, and fails for its failure. -/
theorem run_eq (query : Query) :
    (step : Step) → step.run query = ⟨Call.runAll query step.reached, step.failure?⟩
  | .call made => by
      rw [run, reached, failure?, ← made.failure_run query]
      rfl
  | .when condition body => by
      rw [run, reached, failure?, Query.when]
      cases condition with
      | true => simp only [if_true, runAll_eq_reachedByAll query body]
      | false => rfl
  | .whenNot condition body => by
      rw [run, reached, failure?, Query.whenNot, Query.when]
      cases condition with
      | true => rfl
      | false => simp [runAll_eq_reachedByAll query body]
  | .tryWhen condition body => by
      rw [run, reached, failure?, Query.tryWhen]
      cases condition with
      | true => simp only [if_true, tryAll_eq_reachedByTrying query body]
      | false => rfl
  | .tryWhenNot condition body => by
      rw [run, reached, failure?, Query.tryWhenNot, Query.tryWhen]
      cases condition with
      | true => rfl
      | false => simp [tryAll_eq_reachedByTrying query body]
  | .preview _ => rfl
  | .pause => rfl

theorem runAll_eq_reachedByAll (query : Query) :
    (body : List Step) → runAll query body = Call.runAll query (reachedByAll body)
  | [] => rfl
  | step :: rest => by
      rw [runAll, run_eq query step, reachedByAll, Call.runAll_append]
      exact runAll_eq_reachedByAll _ rest

theorem tryAll_eq_reachedByTrying (query : Query) :
    (body : List Step) →
      tryAll query body = ⟨Call.runAll query (reachedByTrying body), firstFailure? body⟩
  | [] => rfl
  | step :: rest => by
      rw [tryAll, run_eq query step, reachedByTrying, firstFailure?]
      cases step.failure? with
      | some cause => rfl
      | none =>
          simp only [Call.runAll_append]
          exact tryAll_eq_reachedByTrying _ rest

end

/-- A program that is tried fails for the failure of its first failing step. -/
theorem failure_tryAll (query : Query) (program : List Step) :
    (tryAll query program).failure = program.findSome? failure? := by
  rw [tryAll_eq_reachedByTrying, firstFailure?_eq]

/-- Steps that do not fail are followed up to the first that does, and no further. -/
theorem upToFailure_append {before : List Step} (proper : ∀ step ∈ before, step.failure? = none)
    {step : Step} {cause : Failure} (failing : step.failure? = some cause) (after : List Step) :
    upToFailure (before ++ step :: after) = before ++ [step] := by
  induction before with
  | nil => simp [upToFailure, failing]
  | cons first rest ih =>
      have head := proper first (List.mem_cons_self ..)
      have tail := ih fun step member => proper step (List.mem_cons_of_mem _ member)
      simp [upToFailure, head, tail]

/-- What nesting means: a program, alone or as the body of a condition, does to a query what the
calls do that it reaches. -/
structure Flat (program : List Step) (query : Query) : Prop where
  /-- A program that runs to its end leaves what the calls leave that its steps reach. -/
  all : runAll query program = Call.runAll query (program.flatMap reached)
  /-- A program that is tried leaves what the calls leave that its steps reach up to the first
  that fails, and fails as this one. -/
  tried : tryAll query program =
    ⟨Call.runAll query ((upToFailure program).flatMap reached), program.findSome? failure?⟩
  /-- Each step fails in the same way on every query. -/
  failure : ∀ step ∈ program, ∀ start, (step.run start).failure = step.failure?
  /-- A body that runs to its end never fails, and reaches nothing if it does not run. -/
  whole : ∀ condition : Bool,
    (Step.when condition program).run query =
        ⟨Call.runAll query (if condition then program.flatMap reached else []), none⟩ ∧
      (Step.whenNot condition program).run query =
        ⟨Call.runAll query (if condition then [] else program.flatMap reached), none⟩
  /-- A body that is tried fails only if it runs and one of its steps fails. -/
  attempted : ∀ condition : Bool,
    (Step.tryWhen condition program).run query =
        ⟨Call.runAll query
            (if condition then (upToFailure program).flatMap reached else []),
          if condition then program.findSome? failure? else none⟩ ∧
      (Step.tryWhenNot condition program).run query =
        ⟨Call.runAll query
            (if condition then [] else (upToFailure program).flatMap reached),
          if condition then none else program.findSome? failure?⟩
  /-- A program that is tried fails exactly if it meets a step that fails, and for the same
  cause. -/
  failing : ∀ cause, (tryAll query program).failure = some cause ↔
    ∃ before step after, program = before ++ step :: after ∧
      (tryAll query before).failure = none ∧
      (step.run (tryAll query before).query).failure = some cause
  /-- What was added before the failure stays, and nothing behind it is added. -/
  stopped : ∀ before step after cause, program = before ++ step :: after →
    (tryAll query before).failure = none →
      (step.run (tryAll query before).query).failure = some cause →
        tryAll query program =
          ⟨Call.runAll query (before.flatMap reached ++ step.reached), some cause⟩

/-- Every program does to every query what the calls do that it reaches. -/
theorem flat (program : List Step) (query : Query) : Flat program query := by
  have own (step : Step) (start : Query) : (step.run start).failure = step.failure? := by
    rw [step.run_eq]
  constructor
  case all => rw [runAll_eq_reachedByAll, reachedByAll_eq]
  case tried => rw [tryAll_eq_reachedByTrying, reachedByTrying_eq, firstFailure?_eq]
  case failure => exact fun step _ start => own step start
  case whole =>
    intro condition
    rw [run_eq, run_eq, reached, reached, reachedByAll_eq, failure?, failure?]
    exact ⟨rfl, rfl⟩
  case attempted =>
    intro condition
    rw [run_eq, run_eq, reached, reached, reachedByTrying_eq, failure?, failure?,
      firstFailure?_eq]
    exact ⟨rfl, rfl⟩
  case failing =>
    intro cause
    simp only [failure_tryAll, own, List.findSome?_eq_some_iff, List.findSome?_eq_none_iff]
    constructor
    · rintro ⟨before, step, after, split, failing, proper⟩
      exact ⟨before, step, after, split, proper, failing⟩
    · rintro ⟨before, step, after, split, proper, failing⟩
      exact ⟨before, step, after, split, failing, proper⟩
  case stopped =>
    intro before step after cause split unfailed failing
    rw [failure_tryAll, List.findSome?_eq_none_iff] at unfailed
    rw [own] at failing
    have first : program.findSome? failure? = some cause :=
      List.findSome?_eq_some_iff.mpr ⟨before, step, after, split, failing, unfailed⟩
    rw [tryAll_eq_reachedByTrying, reachedByTrying_eq, firstFailure?_eq, first, split,
      upToFailure_append unfailed failing]
    simp

end Step

end FilterQuery
