import Lisplet.Eval.Basic
import Mathlib.Tactic.Common

/-!
# Evaluation as a script

Evaluating an expression announces steps, reads names, binds names and asks for
applications, and that is all it does. A script writes these steps down in their order,
each with what comes after it. So facts about evaluation are proved by induction on
scripts, with one case for each kind of step and none for the kinds of expression.
-/

namespace Lisplet

/-- What an evaluation does, step by step. -/
inductive Script where
  | done (value : Value)
  | fault (cause : Fault)
  | announce (step : Machine → TraceStep) (next : Script)
  | load (scope : ScopeId) (name : String) (next : Value → Script)
  | define (scope : ScopeId) (name : String) (value : Value) (next : Script)
  | apply (callee : Value) (arguments : List Value) (site : ScopeId) (next : Value → Script)

/-- Takes the steps of a script; applications are made by `apply`. -/
def Script.run (tracing : Bool) (apply : Applier) : Script → EvalM Value
  | .done value => return value
  | .fault cause => EvalM.fault cause
  | .announce step next => do
      EvalM.announce tracing step
      next.run tracing apply
  | .load scope name next => do
      let value ← loadBinding scope name
      (next value).run tracing apply
  | .define scope name value next => do
      EvalM.define scope name value
      next.run tracing apply
  | .apply callee arguments site next => do
      let value ← apply callee arguments site
      (next value).run tracing apply

mutual

/-- The steps of evaluating an expression, with what comes next for its value. -/
def Expr.script (scope : ScopeId) (expression : Expr) (next : Value → Script) : Script :=
  .announce (fun machine => .visit expression (machine.scopes.location scope)) <|
    match expression with
    | .literal _ value => next (Value.ofDatum value)
    | .reference _ name => .announce (fun _ => .load name) (.load scope name next)
    | .apply _ callee arguments =>
        .announce (fun _ => .apply callee) <|
          callee.script scope fun procedure =>
            scriptEach scope arguments fun values => .apply procedure values scope next
    | .branch _ test consequent alternate =>
        test.script scope fun verdict =>
          if verdict.isTruthy then .announce (fun _ => .consequent) (consequent.script scope next)
          else .announce (fun _ => .alternate) (alternate.script scope next)
    | .define _ name value =>
        .announce (fun _ => .define name) <|
          value.script scope fun result =>
            .announce (fun _ => .bound name result) (.define scope name result (next result))
    | .procedure _ name parameters body =>
        .announce (fun _ => .defineProcedure name parameters) <|
          .define scope name (.closure ⟨scope, name, parameters, body⟩)
            (next (.closure ⟨scope, name, parameters, body⟩))
    | .lambda _ parameters body =>
        .announce (fun machine => .makeClosure (machine.scopes.location scope))
          (next (.closure ⟨scope, lambdaName, parameters, body⟩))
    | .quote _ form => .announce (fun _ => .quote form) (next (quotedValue form))
    | .plain value => .fault (.notExpression value.label)

def scriptEach (scope : ScopeId) : List Expr → (List Value → Script) → Script
  | [], next => next []
  | expression :: rest, next =>
      expression.script scope fun value =>
        scriptEach scope rest fun values => next (value :: values)

end

def scriptSequence (scope : ScopeId) : Value → List Expr → Script
  | result, [] => .done result
  | _, expression :: rest =>
      expression.script scope fun value => scriptSequence scope value rest

section Evaluation

variable (tracing : Bool) (apply : Applier) (scope : ScopeId)

mutual

theorem run_script (expression : Expr) (next : Value → Script) :
    (expression.script scope next).run tracing apply =
      expression.eval tracing apply scope >>= fun value => (next value).run tracing apply := by
  unfold Expr.script Expr.eval
  cases expression with
  | literal | quote | lambda => simp only [Script.run, bind_assoc, pure_bind]
  | reference location name => simp only [Script.run, bind_assoc]
  | apply location callee arguments =>
      simp only [Script.run, run_script callee, run_script_each arguments, bind_assoc]
  | branch location test consequent alternate =>
      simp only [Script.run, run_script test, bind_assoc]
      congr 1
      funext _
      congr 1
      funext verdict
      split_ifs
      · simp only [Script.run, run_script consequent, bind_assoc]
      · simp only [Script.run, run_script alternate, bind_assoc]
  | define location name value =>
      simp only [Script.run, run_script value, bind_assoc, pure_bind]
  | procedure location name parameters body =>
      simp only [Script.run, bind_assoc, pure_bind]
  | plain value =>
      simp only [Script.run, bind_assoc]
      rfl

theorem run_script_each (expressions : List Expr) (next : List Value → Script) :
    (scriptEach scope expressions next).run tracing apply =
      evalEach tracing apply scope expressions >>= fun values =>
        (next values).run tracing apply := by
  cases expressions with
  | nil => simp only [scriptEach, evalEach, pure_bind]
  | cons expression rest =>
      simp only [scriptEach, evalEach, run_script expression, run_script_each rest, bind_assoc,
        pure_bind]

end

/-- Evaluating an expression is taking the steps of its script. -/
theorem eval_eq_run (expression : Expr) :
    expression.eval tracing apply scope = (expression.script scope .done).run tracing apply := by
  rw [run_script]
  exact (bind_pure _).symm

theorem eval_sequence_eq_run (result : Value) (expressions : List Expr) :
    evalSequence tracing apply scope result expressions =
      (scriptSequence scope result expressions).run tracing apply := by
  induction expressions generalizing result with
  | nil => rfl
  | cons expression rest ih =>
      rw [evalSequence, scriptSequence, run_script]
      congr 1
      funext value
      exact ih value

end Evaluation

/-- By itself the script raises no fault but that of evaluating what is no expression. -/
def Script.Mild : Script → Prop
  | .done _ => True
  | .fault cause => ∃ label, cause = .notExpression label
  | .announce _ next => next.Mild
  | .load _ _ next => ∀ value, (next value).Mild
  | .define _ _ _ next => next.Mild
  | .apply _ _ _ next => ∀ value, (next value).Mild

mutual

theorem script_mild (scope : ScopeId) (expression : Expr) {next : Value → Script}
    (rest : ∀ value, (next value).Mild) : (expression.script scope next).Mild := by
  unfold Expr.script
  cases expression with
  | literal => exact rest _
  | reference => exact rest
  | apply location callee arguments =>
      exact script_mild scope callee fun _ => script_each_mild scope arguments fun _ => rest
  | branch location test consequent alternate =>
      refine script_mild scope test fun verdict => ?_
      split_ifs
      · exact script_mild scope consequent rest
      · exact script_mild scope alternate rest
  | define location name value => exact script_mild scope value fun _ => rest _
  | procedure => exact rest _
  | lambda => exact rest _
  | quote => exact rest _
  | plain value => exact ⟨value.label, rfl⟩

theorem script_each_mild (scope : ScopeId) (expressions : List Expr) {next : List Value → Script}
    (rest : ∀ values, (next values).Mild) : (scriptEach scope expressions next).Mild := by
  cases expressions with
  | nil => exact rest []
  | cons expression others =>
      unfold scriptEach
      exact script_mild scope expression fun _ => script_each_mild scope others fun _ => rest _

end

theorem script_sequence_mild (scope : ScopeId) (result : Value) (expressions : List Expr) :
    (scriptSequence scope result expressions).Mild := by
  induction expressions generalizing result with
  | nil => trivial
  | cons expression others ih => exact script_mild scope expression ih

end Lisplet
