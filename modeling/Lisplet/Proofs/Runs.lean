import Lisplet.Interpreter.Basic
import Lisplet.Proofs.Frame

/-!
# What a run consists of

A run reads its source and evaluates the program in the global scope. Of the interpreter
it changes the machine alone.
-/

namespace Lisplet

theorem parse_of_source {source : String} {program : List Expr}
    (parsed : parseSource source = .ok program) : parse source = .ok program := by
  unfold parseSource at parsed
  split at parsed
  next spelled =>
    cases parsed
    exact spelled
  all_goals cases parsed

theorem source_of_parse {source : String} {program : List Expr}
    (parsed : parse source = .ok program) : parseSource source = .ok program := by
  unfold parseSource
  rw [parsed]

theorem EvalM.bind_run {First Second : Type} (action : EvalM First) (next : First → EvalM Second)
    (machine : Machine) :
    (action >>= next) machine =
      match action machine with
      | .ok value after => next value after
      | .error failure after => .error failure after := by
  change EStateM.bind action next machine = _
  unfold EStateM.bind
  cases action machine <;> rfl

namespace Interpreter

variable (interpreter : Interpreter)

theorem run_of_parsed {source : String} {program : List Expr}
    (parsed : parseSource source = .ok program) :
    interpreter.run source = interpreter.evaluate globalScope program := by
  unfold run runIn
  rw [parsed]

theorem run_of_unread {source : String} {error : RunError}
    (unread : parseSource source = .error error) :
    interpreter.run source = (.error error, interpreter) := by
  unfold run runIn
  rw [unread]

theorem perform_machine {Result : Type} (action : EvalM Result) :
    (interpreter.perform action).2.machine = action.after interpreter.machine := by
  unfold perform EvalM.after
  cases action interpreter.machine <;> rfl

theorem run_keeps (source : String) :
    (interpreter.run source).2 =
      { interpreter with machine := (interpreter.run source).2.machine } := by
  cases parsed : parseSource source with
  | error error => rw [interpreter.run_of_unread parsed]
  | ok program =>
      rw [interpreter.run_of_parsed parsed]
      unfold evaluate perform
      split <;> rfl

end Interpreter

end Lisplet
