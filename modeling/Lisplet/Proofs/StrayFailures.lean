import Lisplet.Proofs.PassThrough

/-!
# Where faults of the host come from

Without tracing, a fault of the host that leaves a run was raised by an application that the
run came to. What is applied there is no procedure and cannot be described either, or there was
no room for another application. The search for it goes from each application to the one inside
that failed.
-/

namespace Lisplet

section Origins

variable {apply : Applier} {machine after : Machine} {cause : Fault}

/-- Nothing is announced without tracing, so no announcement can fail. -/
theorem Failure.Plain.misplaced_of_host (plain : (Failure.host cause).Plain false) :
    ∃ label, cause = .notExpression label := by
  cases plain with
  | untold failed => cases failed
  | misplaced label => exact ⟨label, rfl⟩

theorem closure_host_failure {closure : Closure} {arguments : List Value} {site : ScopeId}
    (failed : callClosure false apply closure arguments site machine =
      .error (.host cause) after) :
    (∃ inner left,
      Application.Makes false apply ⟨.closure closure, arguments, site, machine⟩ inner ∧
        inner.outcome apply = .error (.host cause) left) ∨
      ∃ label, cause = .notExpression label := by
  have told : EvalM.announce false (fun _ => .call closure) machine = .ok () machine := rfl
  by_cases fits : arguments.length = closure.arity
  · rw [call_closure_of_fits told fits] at failed
    obtain ⟨left, ran⟩ := EvalM.bracket_error_cases failed
    rcases (script_sequence_mild _ _ _).failure_cases ran with ⟨inner, asks, fails⟩ | plain
    · exact .inl ⟨inner, left, .body told fits asks, fails⟩
    · exact .inr plain.misplaced_of_host
  · rw [callClosure, EvalM.bind_ok told, if_pos fits] at failed
    cases failed

/-- No fault of the host comes out of the application of a native function. -/
theorem native_no_host_failure {function : Native} {arguments : List Value} {site : ScopeId} :
    callNative false apply function arguments site machine ≠ .error (.host cause) after := by
  intro failed
  have told : EvalM.announce false (fun _ => .native function arguments) machine =
      .ok () machine := rfl
  rw [callNative, EvalM.bind_ok told] at failed
  rcases EvalM.bind_error_cases failed with inside | ⟨reply, answered, -, thrown⟩
  · obtain ⟨raised, -, same⟩ := EvalM.adapt_error_cases inside
    have structured := blame_native_structured site raised
    rw [← same] at structured
    exact structured
  · cases reply <;> cases thrown

theorem of_text_undescribed {Result : Type} {text : Except Unwritable Result}
    (failed : EvalM.ofText text machine = .error (.host cause) after) :
    ∃ reason, text = .error reason ∧ cause = .unwritable reason := by
  cases text with
  | ok value => cases failed
  | error reason =>
      cases failed
      exact ⟨reason, rfl, rfl⟩

/-- Why an application in which so many may nest raises a fault of the host by itself: it
applies what is no procedure and has no text, or it may not be made at all. -/
inductive Application.Strays : Nat → Application → Fault → Prop where
  | undescribed {depth : Nat} {application : Application} {reason : Unwritable}
      (noClosure : ∀ closure, application.callee ≠ .closure closure)
      (noNative : ∀ function, application.callee ≠ .native function)
      (lacksText : application.callee.describe = .error reason) :
      Strays (depth + 1) application (.unwritable reason)
  | exhausted {application : Application} : Strays 0 application .recursionTooDeep

theorem Application.host_failure_origin {limit : Nat} {outer : Application}
    (failed : outer.outcome (applyWithin false limit) = .error (.host cause) after) :
    (∃ depth inner, outer.Nests false limit depth inner ∧ inner.Strays depth cause) ∨
      ∃ label, cause = .notExpression label := by
  -- As with native failures, the search ends because less and less may nest.
  induction limit generalizing outer after with
  | zero =>
      cases failed
      exact .inl ⟨0, outer, .here, .exhausted⟩
  | succ limit ih =>
      obtain ⟨callee, arguments, site, machine⟩ := outer
      cases callee with
      | closure closure =>
          rcases closure_host_failure failed with ⟨inner, left, makes, fails⟩ | plain
          · refine (ih fails).imp_left ?_
            rintro ⟨depth, raiser, nests, strays⟩
            exact ⟨depth, raiser, .inside makes nests, strays⟩
          · exact .inr plain
      | native function => exact absurd failed native_no_host_failure
      | atom | list | form =>
          rcases EvalM.bind_error_cases failed with early | ⟨described, middle, told, thrown⟩
          · obtain ⟨reason, lacksText, rfl⟩ := of_text_undescribed early
            exact .inl ⟨limit + 1, _, .here, .undescribed nofun nofun lacksText⟩
          · cases thrown

end Origins

theorem Failure.host_of_counted {options : Options} {failure : Failure} {cause : Fault}
    (counted : failure.counted options = .host cause) (few : cause ≠ .tooManyFrames) :
    failure = .host cause := by
  by_cases told : failure.Told options
  · rw [← counted, counted_of_told told]
  · rw [counted_of_untold told] at counted
    cases counted
    exact absurd rfl few

namespace Interpreter

/-- A fault of the host that an application raises which running a program comes to. -/
def Strays (interpreter : Interpreter) (program : List Expr) (failure : Failure) : Prop :=
  ∃ depth inner cause, failure = .host cause ∧ interpreter.Comes program depth inner ∧
    inner.Strays depth cause

theorem run_host_failure_origin {interpreter : Interpreter} {source : String}
    {program : List Expr} {cause : Fault}
    (untraced : interpreter.options.traceExecution = false)
    (parsed : parseSource source = .ok program)
    (failed : (interpreter.run source).1 = .error (.failed (.host cause)))
    (few : cause ≠ .tooManyFrames) (placed : ∀ label, cause ≠ .notExpression label) :
    interpreter.Strays program (.host cause) := by
  rw [run_of_parsed interpreter parsed] at failed
  unfold evaluate perform at failed
  split at failed
  next => cases failed
  next failure after ran =>
    have raised : failure = .host cause := by
      simp only [Except.error.injEq, RunError.failed.injEq] at failed
      exact Failure.host_of_counted failed few
    unfold applier at ran
    rw [raised, eval_sequence_eq_run, untraced] at ran
    rcases (script_sequence_mild _ _ _).failure_cases ran with ⟨outer, asks, fails⟩ | plain
    · rcases Application.host_failure_origin fails with
        ⟨depth, inner, nests, strays⟩ | ⟨label, same⟩
      · refine ⟨depth, inner, cause, rfl, ⟨outer, ?_, ?_⟩, strays⟩
        · unfold applier
          rw [untraced]
          exact asks
        · rw [untraced]
          exact nests
      · exact absurd same (placed label)
    · obtain ⟨label, same⟩ := plain.misplaced_of_host
      exact absurd same (placed label)

theorem run_stray_origin {interpreter : Interpreter} {source : String} {program : List Expr}
    {failure : Failure} (untraced : interpreter.options.traceExecution = false)
    (parsed : parseSource source = .ok program)
    (failed : (interpreter.run source).1 = .error (.failed failure)) (stray : failure.Stray) :
    interpreter.Strays program failure := by
  cases stray with
  | undescribed reason => exact run_host_failure_origin untraced parsed failed nofun nofun
  | exhausted => exact run_host_failure_origin untraced parsed failed nofun nofun

end Interpreter

/-- In every session without tracing, a run of a source that can be read fails only with
a structured failure, or because it came to an application of a value that is no procedure
and has no text, or to one that there was no room for; and where more host frames are asked
for than can be counted, with the fault that says so. -/
theorem failures_are_structured_or_stray (options : Options) (watcher : Watcher)
    (files : FileSystem) (earlier : List String) (source : String) (program : List Expr)
    (untraced : options.traceExecution = false) (parsed : parseSource source = .ok program) :
    let interpreter := ((Interpreter.start options watcher files).runAll earlier).2
    ∀ error, (interpreter.run source).1 = .error error →
      ∃ failure, error = .failed failure ∧
        (failure.Structured ∨ interpreter.Strays program failure ∨
          failure = .host .tooManyFrames ∧ Failure.frameCountLimit < options.maxNativeFrames) := by
  intro interpreter error failed
  have start : (Interpreter.start options watcher files).machine.Sourced :=
    start_sourced Native.standard files
  obtain ⟨same, sourced⟩ :=
    @run_all_sourced (Interpreter.start options watcher files) untraced start earlier
  have quiet : interpreter.options.traceExecution = false := by
    rw [same]
    exact untraced
  obtain ⟨-, -, settled⟩ := run_settles quiet sourced source
  obtain ⟨failure, rfl, reportable⟩ := settled program parsed error failed
  rw [same] at reportable
  refine ⟨failure, rfl, reportable.imp_right (Or.imp_left fun stray => ?_)⟩
  exact Interpreter.run_stray_origin quiet parsed failed stray

/-- A procedure from an earlier run is given a number to apply, inside one that a native
function calls back. -/
def appliedNumber : String :=
  "(map (lambda [f] (use f 1)) (list - 5))"

theorem failures_are_structured_or_stray_callback :
    ∃ program failure,
      let interpreter :=
        ((Interpreter.start {} .output {}).runAll ["(define use [f x] (f x))"]).2
      parseSource appliedNumber = .ok program ∧
        (interpreter.run appliedNumber).1 = .error (.failed failure) ∧
        (failure.Structured ∨ interpreter.Strays program failure ∨
          failure = .host .tooManyFrames ∧
            Failure.frameCountLimit < ({} : Options).maxNativeFrames) := by
  have reads : (parseSource appliedNumber).toOption.isSome := by decide +kernel
  have fails : ((((Interpreter.start {} .output {}).runAll
      ["(define use [f x] (f x))"]).2).run appliedNumber).1.toOption.isNone := by decide +kernel
  cases parsed : parseSource appliedNumber with
  | error error =>
      rw [parsed] at reads
      cases reads
  | ok program =>
      have reported := failures_are_structured_or_stray {} .output {} ["(define use [f x] (f x))"]
        appliedNumber program rfl parsed
      cases ended : ((((Interpreter.start {} .output {}).runAll
          ["(define use [f x] (f x))"]).2).run appliedNumber).1 with
      | ok value =>
          rw [ended] at fails
          cases fails
      | error error =>
          obtain ⟨failure, rfl, fits⟩ := reported error ended
          exact ⟨program, failure, rfl, ended, fits⟩

/-- Computes ten to the power of ten thousand and applies it. -/
def hugeApplication : String :=
  "(define tenth [x] (* x x x x x x x x x x)) ((tenth (tenth (tenth (tenth 10)))))"

/-- Why a run that failed outside of native functions could not describe a value. -/
def strayReason? : Except RunError Value → Option Unwritable
  | .error (.failed (.host (.unwritable reason))) => some reason
  | _ => none

/-- The number is no procedure, and that is not what the failure says. -/
theorem huge_application_strays :
    (∃ program, parseSource hugeApplication = .ok program) ∧
      ((Interpreter.start {} .output {}).run hugeApplication).1 =
        .error (.failed (.host (.unwritable .tooManyDigits))) := by
  have strays : strayReason? ((Interpreter.start {} .output {}).run hugeApplication).1 =
      some .tooManyDigits := by decide +kernel
  have ended : ((Interpreter.start {} .output {}).run hugeApplication).1 =
      .error (.failed (.host (.unwritable .tooManyDigits))) := by
    unfold strayReason? at strays
    split at strays
    next reason failed =>
      rw [failed, Option.some.inj strays]
    next => cases strays
  refine ⟨?_, ended⟩
  cases parsed : parseSource hugeApplication with
  | ok program => exact ⟨program, rfl⟩
  | error error =>
      rw [Interpreter.run_of_unread _ parsed] at ended
      cases ended
      unfold parseSource at parsed
      split at parsed <;> cases parsed

end Lisplet
