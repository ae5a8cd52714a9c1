import FilterQuery.Decoding.Markup

namespace FilterQuery

inductive Call where
  | add (condition : Condition)
  | equals (field : String) (value : Value)
  | excludes (field : String) (value : Value)
  | lessThan (field : String) (bound : Number)
  | greaterThan (field : String) (bound : Number)
  | anyOf (field : String) (values : List Value)
  | noneOf (field : String) (values : List Value)
  | line (text : String)
  | document (markup : Decoding.Markup) (text : String)

namespace Call

def run (query : Query) : Call → Attempt Failure
  | .add condition => (query.add condition).mapFailure .inapplicable
  | .equals field value => ⟨query.equals field value, none⟩
  | .excludes field value => ⟨query.excludes field value, none⟩
  | .lessThan field bound => ⟨query.lessThan field bound, none⟩
  | .greaterThan field bound => ⟨query.greaterThan field bound, none⟩
  | .anyOf field values => ⟨query.anyOf field values, none⟩
  | .noneOf field values => ⟨query.noneOf field values, none⟩
  | .line text =>
      match Clause.ofLine text with
      | .ok clause => (clause.apply query).mapFailure .inapplicable
      | .error cause => ⟨query, some cause⟩
  | .document markup text =>
      match markup.document text with
      | .ok decoded => (decoded.apply query).mapFailure .inapplicable
      | .error cause => ⟨query, some cause⟩

end Call

namespace Query

/-- The query after a body that runs only if the condition holds. -/
def when (query : Query) (condition : Bool) (body : Query → Query) : Query :=
  if condition then body query else query

/-- The query after a body that runs only if the condition does not hold. -/
def whenNot (query : Query) (condition : Bool) (body : Query → Query) : Query :=
  query.when (!condition) body

/-- The query after a body that may fail and runs only if the condition holds. -/
def tryWhen (query : Query) (condition : Bool) (body : Query → Attempt Failure) :
    Attempt Failure :=
  if condition then body query else ⟨query, none⟩

/-- The query after a body that may fail and runs only if the condition does not hold. -/
def tryWhenNot (query : Query) (condition : Bool) (body : Query → Attempt Failure) :
    Attempt Failure :=
  query.tryWhen (!condition) body

end Query

/-- A step of a program. A preview runs its body on a copy of the query, and a pause does nothing. -/
inductive Step where
  | call (made : Call)
  | when (condition : Bool) (body : List Step)
  | whenNot (condition : Bool) (body : List Step)
  | tryWhen (condition : Bool) (body : List Step)
  | tryWhenNot (condition : Bool) (body : List Step)
  | preview (body : List Step)
  | pause

namespace Step

mutual

def run (query : Query) : Step → Attempt Failure
  | .call made => made.run query
  | .when condition body => ⟨query.when condition fun query => runAll query body, none⟩
  | .whenNot condition body => ⟨query.whenNot condition fun query => runAll query body, none⟩
  | .tryWhen condition body => query.tryWhen condition fun query => tryAll query body
  | .tryWhenNot condition body => query.tryWhenNot condition fun query => tryAll query body
  | .preview _ => ⟨query, none⟩
  | .pause => ⟨query, none⟩

/-- Runs all steps, whatever fails. -/
def runAll (query : Query) : List Step → Query
  | [] => query
  | step :: rest => runAll (step.run query).query rest

/-- Runs the steps up to the first that fails. -/
def tryAll (query : Query) : List Step → Attempt Failure
  | [] => ⟨query, none⟩
  | step :: rest =>
      let attempt := step.run query
      match attempt.failure with
      | none => tryAll attempt.query rest
      | some _ => attempt

end

end Step

/-- What is seen of a step: the query after it, its failure, and what is seen of the steps in its
body if the body ran. -/
inductive Trace where
  | mk (attempt : Attempt Failure) (inner : Option (List Trace))

namespace Step

mutual

/-- What is seen of a step. -/
def trace (query : Query) : Step → Trace
  | .call made => .mk (made.run query) none
  | .when condition body =>
      .mk ((Step.when condition body).run query)
        (if condition then some (traceAll query body) else none)
  | .whenNot condition body =>
      .mk ((Step.whenNot condition body).run query)
        (if condition then none else some (traceAll query body))
  | .tryWhen condition body =>
      .mk ((Step.tryWhen condition body).run query)
        (if condition then some (traceTried query body) else none)
  | .tryWhenNot condition body =>
      .mk ((Step.tryWhenNot condition body).run query)
        (if condition then none else some (traceTried query body))
  | .preview body => .mk ⟨query, none⟩ (some (traceAll query body))
  | .pause => .mk ⟨query, none⟩ none

/-- What is seen of steps that all run. -/
def traceAll (query : Query) : List Step → List Trace
  | [] => []
  | step :: rest => step.trace query :: traceAll (step.run query).query rest

/-- What is seen of steps that run up to the first that fails. -/
def traceTried (query : Query) : List Step → List Trace
  | [] => []
  | step :: rest =>
      let attempt := step.run query
      match attempt.failure with
      | none => step.trace query :: traceTried attempt.query rest
      | some _ => [step.trace query]

end

end Step

end FilterQuery
