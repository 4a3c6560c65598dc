import Lisplet.Proofs.Balance
import Lisplet.Proofs.StructuredFailures

/-!
# Failures pass through native functions

Native functions and procedures call each other to any depth, and each of these calls
can fail. A structured failure comes out at the top as it was raised, and nothing is done
on its way but to end the calls in progress. A native failure is raised by exactly one
application, the one whose native function met a fault of the host, and it names the
scope of that call. Only the report of a run can hide it, where more host frames are
asked for than can be counted.
-/

namespace Lisplet

namespace Dialogue

/-- The applications that a dialogue asks for, in their order. -/
def requests (apply : Applier) : Dialogue → Machine → List Application
  | .answer _, _ => []
  | .ask procedure arguments next, machine =>
      match machine.sites with
      | [] => []
      | site :: _ =>
          ⟨procedure, arguments, site, machine⟩ ::
            match apply procedure arguments site machine with
            | .ok value after => (next value).requests apply after
            | .error _ _ => []

variable {apply : Applier} {procedure : Value} {arguments : List Value}
  {next : Value → Dialogue} {machine after : Machine} {site : ScopeId} {outer : List ScopeId}

theorem requests_idle (idle : machine.sites = []) :
    (ask procedure arguments next).requests apply machine = [] := by
  rw [requests, idle]

theorem requests_ok {value : Value} (inside : machine.sites = site :: outer)
    (result : apply procedure arguments site machine = .ok value after) :
    (ask procedure arguments next).requests apply machine =
      ⟨procedure, arguments, site, machine⟩ :: (next value).requests apply after := by
  rw [requests, inside]
  simp only [result]

theorem requests_error {failure : Failure} (inside : machine.sites = site :: outer)
    (failed : apply procedure arguments site machine = .error failure after) :
    (ask procedure arguments next).requests apply machine =
      [⟨procedure, arguments, site, machine⟩] := by
  rw [requests, inside]
  simp only [failed]

theorem mem_requests {dialogue : Dialogue} {inner : Application} :
    inner ∈ dialogue.requests apply machine ↔ dialogue.Asks apply machine inner := by
  induction dialogue generalizing machine with
  | answer action =>
      constructor
      · exact fun member => absurd member List.not_mem_nil
      · intro asks
        cases asks
  | ask procedure arguments next ih =>
      cases inside : machine.sites with
      | nil =>
          rw [requests_idle inside]
          refine ⟨fun member => absurd member List.not_mem_nil, fun asks => ?_⟩
          cases asks with
          | here here => rw [inside] at here; cases here
          | called result rest => rw [call_back_of_idle inside] at result; cases result
      | cons site outer =>
          cases outcome : apply procedure arguments site machine with
          | error failure after =>
              rw [requests_error inside outcome, List.mem_singleton]
              constructor
              · rintro rfl
                exact .here inside
              · intro asks
                cases asks with
                | here here => rw [inside] at here; cases here; rfl
                | called result rest =>
                    rw [call_back_of_inside inside, outcome] at result
                    cases result
          | ok value after =>
              rw [requests_ok inside outcome, List.mem_cons, ih]
              have called : callBack apply procedure arguments machine = .ok value after := by
                rw [call_back_of_inside inside, outcome]
              constructor
              · rintro (rfl | asks)
                · exact .here inside
                · exact .called called asks
              · intro asks
                cases asks with
                | here here => rw [inside] at here; cases here; exact .inl rfl
                | called result rest =>
                    rw [called] at result
                    cases result
                    exact .inr rest

theorem requests_end_at_failure {dialogue : Dialogue} {inner : Application} {failure : Failure}
    (member : inner ∈ dialogue.requests apply machine)
    (failed : inner.outcome apply = .error failure after) :
    (dialogue.requests apply machine).getLast? = some inner := by
  induction dialogue generalizing machine with
  | answer action => cases member
  | ask procedure arguments next ih =>
      cases inside : machine.sites with
      | nil =>
          rw [requests_idle inside] at member
          cases member
      | cons site outer =>
          cases outcome : apply procedure arguments site machine with
          | error failure after =>
              rw [requests_error inside outcome, List.mem_singleton] at member
              rw [requests_error inside outcome, member, List.getLast?_singleton]
          | ok value after =>
              rw [requests_ok inside outcome] at member ⊢
              rcases List.mem_cons.mp member with rfl | later
              · rw [Application.outcome, outcome] at failed
                cases failed
              · rw [List.getLast?_cons, ih value later, Option.getD_some]

end Dialogue

section Nesting

variable {tracing : Bool} {apply : Applier} {failure : Failure} {after : Machine}

/-- The applications that a native function asks for, in their order. -/
def Application.callbacks (tracing : Bool) (apply : Applier) (application : Application) :
    List Application :=
  match application.callee with
  | .native function =>
      match EvalM.announce tracing (fun _ => .native function application.arguments)
          application.machine with
      | .ok () begun =>
          (function.dialogue application.arguments).requests apply
            (begun.inNative application.site)
      | .error _ _ => []
  | _ => []

theorem Application.makes_iff_mem_callbacks {outer inner : Application} {function : Native}
    (native : outer.callee = .native function) :
    outer.Makes tracing apply inner ↔ inner ∈ outer.callbacks tracing apply := by
  obtain ⟨callee, arguments, site, machine⟩ := outer
  cases native
  simp only [callbacks]
  constructor
  · rintro (- | ⟨told, asks⟩)
    rw [told]
    exact Dialogue.mem_requests.mpr asks
  · intro member
    split at member
    next begun told => exact .callback told (Dialogue.mem_requests.mp member)
    next => cases member

theorem Application.callbacks_end_at_failure {outer inner : Application}
    (member : inner ∈ outer.callbacks tracing apply)
    (failed : inner.outcome apply = .error failure after) :
    (outer.callbacks tracing apply).getLast? = some inner := by
  unfold callbacks at member ⊢
  split at member
  next function native =>
    split at member
    next begun told => exact Dialogue.requests_end_at_failure member failed
    next => cases member
  next => cases member

/-- One application is made inside another, or is that one itself. Each comes with the
number of applications that may nest in it. -/
inductive Application.Nests (tracing : Bool) : Nat → Application → Nat → Application → Prop where
  | here {limit : Nat} {application : Application} : Nests tracing limit application limit application
  | inside {limit depth : Nat} {outer middle inner : Application}
      (makes : outer.Makes tracing (applyWithin tracing limit) middle)
      (nests : Nests tracing limit middle depth inner) :
      Nests tracing (limit + 1) outer depth inner

theorem Application.passes_structured (application : Application) (structured : failure.Structured) :
    application.passes failure = failure := by
  unfold passes blameNative
  split
  next => split <;> first | rfl | exact structured.elim
  next => rfl

theorem Application.same_calls_after {application : Application} {limit : Nat}
    (failed : application.outcome (applyWithin tracing limit) = .error failure after) :
    application.machine.SameCalls after :=
  (apply_within_balanced tracing limit application.callee application.arguments
    application.site application.machine).of_error failed

theorem Machine.SameCalls.with_calls_of {before : Machine} (same : before.SameCalls after) :
    after.withCallsOf after = after.withCallsOf before := by
  unfold Machine.withCallsOf
  rw [same.depth, same.sites]

/-- A structured failure passes through all applications around it. What it leaves is
what it found where it was raised, but for the calls in progress. -/
theorem Application.Nests.fails {limit depth : Nat} {outer inner : Application}
    (nests : outer.Nests tracing limit depth inner) (structured : failure.Structured)
    (failed : inner.outcome (applyWithin tracing depth) = .error failure after) :
    outer.outcome (applyWithin tracing limit) =
      .error failure (after.withCallsOf outer.machine) := by
  induction nests with
  | here =>
      have same := same_calls_after failed
      have kept : after = after.withCallsOf after := rfl
      rw [failed, kept, same.with_calls_of]
      rfl
  | @inside limit depth outer middle inner makes nests ih =>
      -- What is left differs only in the calls in progress, and those are balanced.
      obtain ⟨last, fails, left⟩ := makes.fails (ih failed)
      rw [outer.passes_structured structured] at fails
      have whole : outer.outcome (applyWithin tracing (limit + 1)) = .error failure last := fails
      have same := same_calls_after whole
      have kept : last = after.withCallsOf outer.machine := by
        rw [left]
        unfold Machine.withCallsOf
        rw [same.depth, same.sites]
      rw [whole, kept]

/-- Every native failure was raised by one application, the innermost one that knows of
it: the fault of the host is its own, and the scope is that of its call. -/
theorem Application.native_failure_origin {limit : Nat} {outer : Application} {cause : Fault}
    {scope : ScopeId}
    (failed : outer.outcome (applyWithin tracing limit) = .error (.native cause scope) after) :
    ∃ depth inner, outer.Nests tracing limit (depth + 1) inner ∧
      inner.Faults tracing (applyWithin tracing depth) cause ∧ scope = inner.site := by
  -- Each application inside has one less to nest, so the search ends at a raiser.
  induction limit generalizing outer after with
  | zero => cases failed
  | succ limit ih =>
      rcases native_failure_iff.mp ⟨after, failed⟩ with ⟨faults, same⟩ | ⟨inner, left, makes, fails⟩
      · exact ⟨limit, outer, .here, faults, same⟩
      · obtain ⟨depth, raiser, nests, faults, same⟩ := ih fails
        exact ⟨depth, raiser, .inside makes nests, faults, same⟩

end Nesting

def structuredLabels : List String :=
  ["PLispRuntimeError", "PLispArityMismatchError", "PLispUndefinedBindingError", "PLispNativeError"]

theorem Fault.label_not_structured (cause : Fault) : cause.label ∉ structuredLabels := by
  have reasons (reason : Unwritable) : reason.label ∉ structuredLabels := by
    cases reason <;> decide
  have uses (use : TextUse) : use.label ∉ structuredLabels := by
    cases use <;> simp [TextUse.label, structuredLabels]
  have faults (fault : ArithmeticFault) : fault.label ∉ structuredLabels := by
    cases fault <;> decide
  have files (fault : FileFault) : fault.label ∉ structuredLabels := by
    cases fault <;> decide
  have patterns (error : PatternError) : error.label ∉ structuredLabels := by
    cases error <;> simp [PatternError.label, structuredLabels]
  cases cause with
  | unwritable reason => exact reasons reason
  | noText use => exact uses use
  | arithmetic fault => exact faults fault
  | file fault path => exact files fault
  | badPattern pattern error => exact patterns error
  | _ => simp [label, structuredLabels]

/-- A failure can be told: if it is a native one, the host frames that are asked for can
be counted. -/
def Failure.Told (options : Options) (failure : Failure) : Prop :=
  ∀ cause scope, failure = .native cause scope → options.maxNativeFrames ≤ frameCountLimit

theorem Failure.counted_of_told {options : Options} {failure : Failure}
    (told : failure.Told options) : failure.counted options = failure := by
  cases failure with
  | native cause scope => exact if_neg (Nat.not_lt.mpr (told cause scope rfl))
  | arityMismatch | unbound | host => rfl

theorem Failure.counted_of_untold {options : Options} {failure : Failure}
    (untold : ¬ failure.Told options) : failure.counted options = .host .tooManyFrames := by
  cases failure with
  | native cause scope =>
      have many : frameCountLimit < options.maxNativeFrames := by
        by_contra few
        exact untold fun _ _ _ => Nat.not_lt.mp few
      exact if_pos many
  | arityMismatch | unbound | host => exact absurd (fun _ _ none => by cases none) untold

theorem Failure.native_of_counted {options : Options} {failure : Failure} {cause : Fault}
    {scope : ScopeId} (counted : failure.counted options = .native cause scope) :
    failure = .native cause scope := by
  by_cases told : failure.Told options
  · rw [← counted, counted_of_told told]
  · rw [counted_of_untold told] at counted
    cases counted

namespace Interpreter

variable (interpreter : Interpreter)

/-- Running a program comes to an application in which so many may nest. -/
def Comes (program : List Expr) (depth : Nat) (inner : Application) : Prop :=
  ∃ outer, (scriptSequence globalScope .nil program).Asks interpreter.options.traceExecution
      interpreter.applier interpreter.machine outer ∧
    outer.Nests interpreter.options.traceExecution recursionLimit depth inner

variable {interpreter}

/-- A run reports what a structured failure counts as, and keeps what was done before
the failure. -/
theorem run_fails_with {source : String} {program : List Expr} {depth : Nat}
    {inner : Application} {failure : Failure} {after : Machine}
    (parsed : parseSource source = .ok program) (comes : interpreter.Comes program depth inner)
    (structured : failure.Structured)
    (failed : inner.outcome (applyWithin interpreter.options.traceExecution depth) =
      .error failure after) :
    interpreter.run source =
      (.error (.failed (failure.counted interpreter.options)),
        { interpreter with machine := after.withCallsOf interpreter.machine }) := by
  obtain ⟨outer, asks, nests⟩ := comes
  have fails := asks.fails (nests.fails structured failed)
  rw [← eval_sequence_eq_run] at fails
  have same := (eval_sequence_balanced interpreter.options.traceExecution
    interpreter.applier_balanced globalScope .nil program interpreter.machine).of_error fails
  have left : after.withCallsOf outer.machine = after.withCallsOf interpreter.machine := by
    have depth : outer.machine.depth = interpreter.machine.depth := same.depth
    have sites : outer.machine.sites = interpreter.machine.sites := same.sites
    unfold Machine.withCallsOf
    rw [depth, sites]
  rw [run_of_parsed interpreter parsed]
  unfold evaluate perform
  rw [fails, left]

/-- A native failure that a run reports was raised by one application that the run came
to. -/
theorem run_native_failure_origin {source : String} {cause : Fault} {scope : ScopeId}
    (failed : (interpreter.run source).1 = .error (.failed (.native cause scope))) :
    ∃ program depth inner, parseSource source = .ok program ∧
      interpreter.Comes program (depth + 1) inner ∧
      inner.Faults interpreter.options.traceExecution
        (applyWithin interpreter.options.traceExecution depth) cause ∧
      scope = inner.site := by
  cases parsed : parseSource source with
  | error error =>
      rw [run_of_unread interpreter parsed] at failed
      cases failed
      unfold parseSource at parsed
      split at parsed <;> cases parsed
  | ok program =>
      rw [run_of_parsed interpreter parsed] at failed
      unfold evaluate perform at failed
      split at failed
      next => cases failed
      next failure after ran =>
        have raised : failure = .native cause scope := by
          simp only [Except.error.injEq, RunError.failed.injEq] at failed
          exact Failure.native_of_counted failed
        rw [raised, eval_sequence_eq_run] at ran
        rcases (script_sequence_mild _ _ _).failure_cases ran with
          ⟨outer, asks, fails⟩ | plain
        · obtain ⟨depth, inner, nests, faults, same⟩ := Application.native_failure_origin fails
          exact ⟨program, depth, inner, rfl, ⟨outer, asks, nests⟩, faults, same⟩
        · exact absurd plain Failure.Plain.not_native

end Interpreter

/-- Structured failures pass through native functions unchanged, and faults of the host
are wrapped once. A structured failure of an application comes out of every application
around it as it is; nothing else is done then but to end the calls in progress, and a
native function asks for nothing more after a request that failed. An application fails
with a native failure exactly if the fault is its own, and then the failure names the
scope of its own call, or if one that it makes fails with that failure; so it was raised
once, by the innermost. No cause is a structured failure. Runs report such a failure as
it is, except that they cannot tell a native one if more host frames are asked for than
can be counted. -/
theorem failures_pass_through (tracing : Bool) (limit : Nat) (outer : Application)
    (interpreter : Interpreter) (source : String) :
    (∀ depth inner failure after, outer.Nests tracing limit depth inner → failure.Structured →
      inner.outcome (applyWithin tracing depth) = .error failure after →
        outer.outcome (applyWithin tracing limit) =
          .error failure (after.withCallsOf outer.machine)) ∧
    (∀ function inner failure after, outer.callee = .native function →
      inner.outcome (applyWithin tracing limit) = .error failure after →
        (outer.Makes tracing (applyWithin tracing limit) inner ↔
          (outer.callbacks tracing (applyWithin tracing limit)).getLast? = some inner)) ∧
    (∀ cause scope,
      (∃ last, outer.outcome (applyWithin tracing (limit + 1)) =
          .error (.native cause scope) last) ↔
        (outer.Faults tracing (applyWithin tracing limit) cause ∧ scope = outer.site) ∨
          ∃ inner left, outer.Makes tracing (applyWithin tracing limit) inner ∧
            inner.outcome (applyWithin tracing limit) = .error (.native cause scope) left) ∧
    (∀ cause : Fault, cause.label ∉ structuredLabels) ∧
    (∀ program depth (inner : Application) failure after,
      parseSource source = .ok program → interpreter.Comes program depth inner →
      failure.Structured →
      inner.outcome (applyWithin interpreter.options.traceExecution depth) =
        .error failure after →
        (interpreter.run source).2 =
            { interpreter with machine := after.withCallsOf interpreter.machine } ∧
          (failure.Told interpreter.options →
            (interpreter.run source).1 = .error (.failed failure)) ∧
          (¬ failure.Told interpreter.options →
            (interpreter.run source).1 = .error (.failed (.host .tooManyFrames)))) ∧
    (∀ cause scope, (interpreter.run source).1 = .error (.failed (.native cause scope)) →
      ∃ program depth inner, parseSource source = .ok program ∧
        interpreter.Comes program (depth + 1) inner ∧
        inner.Faults interpreter.options.traceExecution
          (applyWithin interpreter.options.traceExecution depth) cause ∧
        scope = inner.site) := by
  refine ⟨?_, ?_, ?_, Fault.label_not_structured, ?_, ?_⟩
  · intro depth inner failure after nests structured failed
    exact nests.fails structured failed
  · intro function inner failure after native failed
    rw [Application.makes_iff_mem_callbacks native]
    exact ⟨fun member => Application.callbacks_end_at_failure member failed,
      List.mem_of_getLast?⟩
  · intro cause scope
    exact Application.native_failure_iff
  · intro program depth inner failure after parsed comes structured failed
    have ends := Interpreter.run_fails_with parsed comes structured failed
    refine ⟨congrArg Prod.snd ends, fun told => ?_, fun untold => ?_⟩
    · rw [ends, Failure.counted_of_told told]
    · rw [ends, Failure.counted_of_untold untold]
  · intro cause scope failed
    exact Interpreter.run_native_failure_origin failed

/-- Binds two rows, and only the first of them is a list. -/
def rowsInterpreter : Interpreter :=
  { machine := { scopes := (Scopes.make {} none globalLocation
      [("map", .native .map), ("first", .native .first),
        ("rows", .list [.list [.nil], .boolean true])]) } }

def firstOfRows : List Expr :=
  [.apply (some ⟨1, 1⟩) (.reference (some ⟨1, 2⟩) "map")
    [.reference (some ⟨1, 6⟩) "first", .reference (some ⟨1, 12⟩) "rows"]]

/-- The second request fails and is the last, and its failure is that of the run. -/
theorem failures_pass_through_second_row :
    ∃ outer inner : Application,
      (outer.callbacks false (applyWithin false 19999)).getLast? = some inner ∧
      parseSource "(map first rows)" = .ok firstOfRows ∧
      rowsInterpreter.Comes firstOfRows 19999 inner ∧
      inner.outcome (applyWithin false 19999) =
        .error (.native (.wrongKind .first .list "boolean" "true") 0) inner.machine ∧
      (rowsInterpreter.run "(map first rows)").1 =
        .error (.failed (.native (.wrongKind .first .list "boolean" "true") 0)) := by
  let outer : Application :=
    ⟨.native .map, [.native .first, .list [.list [.nil], .boolean true]], 0,
      rowsInterpreter.machine⟩
  let inner : Application :=
    ⟨.native .first, [.boolean true], 0, rowsInterpreter.machine.inNative 0⟩
  have parsed : parseSource "(map first rows)" = .ok firstOfRows := by rfl
  have asks : (scriptSequence globalScope .nil firstOfRows).Asks false rowsInterpreter.applier
      rowsInterpreter.machine outer := by
    refine .announced rfl (.announced rfl ?_)
    refine .announced rfl (.announced rfl (.loaded (by with_unfolding_all rfl) ?_))
    refine .announced rfl (.announced rfl (.loaded (by with_unfolding_all rfl) ?_))
    refine .announced rfl (.announced rfl (.loaded (by with_unfolding_all rfl) ?_))
    exact .here
  have makes : outer.Makes false (applyWithin false 19999) inner :=
    .callback rfl (.called rfl (.here rfl))
  have comes : rowsInterpreter.Comes firstOfRows 19999 inner :=
    ⟨outer, asks, .inside makes .here⟩
  have failed : inner.outcome (applyWithin false 19999) =
      .error (.native (.wrongKind .first .list "boolean" "true") 0) inner.machine := by rfl
  have few : rowsInterpreter.options.maxNativeFrames ≤ Failure.frameCountLimit := by decide
  obtain ⟨-, ordered, -, -, reported, -⟩ :=
    failures_pass_through false 19999 outer rowsInterpreter "(map first rows)"
  have ends := reported firstOfRows 19999 inner
    (.native (.wrongKind .first .list "boolean" "true") 0) _ parsed comes trivial failed
  exact ⟨outer, inner, (ordered .map inner _ _ rfl failed).mp makes, parsed, comes, failed,
    ends.2.1 fun _ _ _ => few⟩

def hostFault? : Except RunError Value → Option Fault
  | .error (.failed (.host fault)) => some fault
  | _ => none

/-- Division by zero fails inside a native function, and with too many host frames asked
for the run does not say so. -/
theorem uncounted_division_is_untold :
    let options : Options := { maxNativeFrames := Failure.frameCountLimit + 1 }
    ((Interpreter.start options .output {}).run "(/ 1 0)").1 =
      .error (.failed (.host .tooManyFrames)) := by
  intro options
  have untold : hostFault? ((Interpreter.start options .output {}).run "(/ 1 0)").1 =
      some .tooManyFrames := by decide +kernel
  unfold hostFault? at untold
  split at untold
  next fault failed => rw [failed, Option.some.inj untold]
  next => cases untold

end Lisplet
