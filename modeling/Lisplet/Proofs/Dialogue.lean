import Lisplet.Native.Invoke
import Mathlib.Tactic.Common

/-!
# Native functions as dialogues

A native function either answers at once or asks for a procedure to be applied
and goes on with the result. This is all it can do with the evaluator, so facts
about callbacks are proved by induction on dialogues, whatever function it is.
-/

namespace Lisplet

/-- What a native function says to the evaluator. -/
inductive Dialogue where
  | answer (action : EvalM Reply)
  | ask (procedure : Value) (arguments : List Value) (next : Value → Dialogue)

namespace Dialogue

def run (call : Caller) : Dialogue → EvalM Reply
  | .answer action => action
  | .ask procedure arguments next => do
      let value ← call procedure arguments
      (next value).run call

def reply (value : Value) : Dialogue :=
  .answer (return .value value)

def attempt {Result : Type} (result : Except Fault Result) (next : Result → Dialogue) : Dialogue :=
  match result with
  | .ok value => next value
  | .error cause => .answer (EvalM.fault cause)

def eachRow (procedure : Value) : List (List Value) → (List Value → Dialogue) → Dialogue
  | [], next => next []
  | row :: rest, next =>
      .ask procedure row fun result =>
        eachRow procedure rest fun results => next (result :: results)

/-- Asks about each element and keeps those for which the answer is true. -/
def eachKept (procedure : Value) : List Value → (List Value → Dialogue) → Dialogue
  | [], next => next []
  | item :: rest, next =>
      .ask procedure [item] fun verdict =>
        eachKept procedure rest fun kept =>
          next (if verdict.isTruthy then item :: kept else kept)

/-- Asks to join each element to what came before. -/
def eachJoined (procedure : Value) : Value → List Value → Dialogue
  | total, [] => reply total
  | total, item :: rest =>
      .ask procedure [total, item] fun next => eachJoined procedure next rest

def eachFlat (procedure : Value) : List Value → (List Value → Dialogue) → Dialogue
  | [], next => next []
  | item :: rest, next =>
      .ask procedure [item] fun result =>
        attempt (Prelude.sequence .flatmap result) fun items =>
          eachFlat procedure rest fun others => next (items ++ others)

def mapping : List Value → Dialogue
  | procedure :: value :: values =>
      attempt (Prelude.sequences .map (value :: values)) fun lists =>
        match lists with
        | [] => reply (.list [])
        | first :: others =>
            eachRow procedure (Prelude.rows first others) fun results => reply (.list results)
  | arguments => .answer (EvalM.fault (.missingLists arguments.length))

def filtering : List Value → Dialogue
  | [procedure, value] =>
      attempt (Prelude.sequence .filter value) fun items =>
        eachKept procedure items fun kept => reply (.list kept)
  | arguments => attempt (Prelude.refuseCount .filter [2] arguments) reply

def reducing : List Value → Dialogue
  | [procedure, value] =>
      attempt (Prelude.sequence .reduce value) fun items =>
        match items with
        | [] => .ask procedure [] reply
        | first :: rest => eachJoined procedure first rest
  | [procedure, start, value] =>
      attempt (Prelude.sequence .reduce value) fun items => eachJoined procedure start items
  | arguments => attempt (Prelude.refuseCount .reduce [2, 3] arguments) reply

def flatmapping : List Value → Dialogue
  | [procedure, value] =>
      attempt (Prelude.sequence .flatmap value) fun items =>
        eachFlat procedure items fun results => reply (.list results)
  | arguments => attempt (Prelude.refuseCount .flatmap [2] arguments) reply

def noCaller : Caller := fun _ _ => EvalM.fault .noNativeRunning

end Dialogue

/-- The dialogue of a native function on its arguments. -/
def Native.dialogue : Native → List Value → Dialogue
  | .map, arguments => .mapping arguments
  | .filter, arguments => .filtering arguments
  | .reduce, arguments => .reducing arguments
  | .flatmap, arguments => .flatmapping arguments
  | function, arguments => .answer (Prelude.invoke Dialogue.noCaller function arguments)

namespace Dialogue

variable (call : Caller)

theorem run_attempt {Result : Type} (result : Except Fault Result) (next : Result → Dialogue) :
    (attempt result next).run call =
      EvalM.ofExcept result >>= fun value => (next value).run call := by
  cases result <;> rfl

theorem run_each_row (procedure : Value) (rows : List (List Value))
    (next : List Value → Dialogue) :
    (eachRow procedure rows next).run call =
      Prelude.callRows call procedure rows >>= fun results => (next results).run call := by
  induction rows generalizing next with
  | nil => rfl
  | cons row rows ih => simp only [eachRow, run, ih, Prelude.callRows, bind_assoc, pure_bind]

theorem run_each_kept (procedure : Value) (items : List Value) (next : List Value → Dialogue) :
    (eachKept procedure items next).run call =
      Prelude.keepElements call procedure items >>= fun kept => (next kept).run call := by
  induction items generalizing next with
  | nil => rfl
  | cons item items ih => simp only [eachKept, run, ih, Prelude.keepElements, bind_assoc, pure_bind]

theorem run_each_joined (procedure total : Value) (items : List Value) :
    (eachJoined procedure total items).run call =
      .value <$> Prelude.foldElements call procedure total items := by
  induction items generalizing total with
  | nil => rfl
  | cons item items ih =>
      simp only [eachJoined, run, ih, Prelude.foldElements, map_bind]

theorem run_each_flat (procedure : Value) (items : List Value) (next : List Value → Dialogue) :
    (eachFlat procedure items next).run call =
      Prelude.flattenResults call procedure items >>= fun results => (next results).run call := by
  induction items generalizing next with
  | nil => rfl
  | cons item items ih =>
      simp only [eachFlat, run, run_attempt, ih, Prelude.flattenResults, bind_assoc, pure_bind]

theorem run_mapping (arguments : List Value) :
    (mapping arguments).run call = .value <$> Prelude.mapped call arguments := by
  match arguments with
  | [] => rfl
  | [_] => rfl
  | procedure :: value :: values =>
      simp only [mapping, run_attempt, Prelude.mapped, map_bind]
      congr 1
      funext lists
      cases lists with
      | nil => rfl
      | cons first others =>
          dsimp only
          rw [run_each_row, map_eq_pure_bind, map_eq_pure_bind, bind_assoc]
          rfl

theorem run_filtering (arguments : List Value) :
    (filtering arguments).run call = .value <$> Prelude.filtered call arguments := by
  match arguments with
  | [] => rfl
  | [_] => rfl
  | [procedure, value] =>
      simp only [filtering, run_attempt, Prelude.filtered, map_bind, run_each_kept]
      congr 1
      funext items
      rw [map_eq_pure_bind, map_eq_pure_bind, bind_assoc]
      rfl
  | _ :: _ :: _ :: _ => rfl

theorem run_reducing (arguments : List Value) :
    (reducing arguments).run call = .value <$> Prelude.reduced call arguments := by
  match arguments with
  | [] => rfl
  | [_] => rfl
  | [procedure, value] =>
      simp only [reducing, run_attempt, Prelude.reduced, map_bind]
      congr 1
      funext items
      cases items with
      | nil =>
          rw [map_eq_pure_bind]
          rfl
      | cons first rest => exact run_each_joined call procedure first rest
  | [procedure, start, value] =>
      simp only [reducing, run_attempt, Prelude.reduced, map_bind, run_each_joined]
  | _ :: _ :: _ :: _ :: _ => rfl

theorem run_flatmapping (arguments : List Value) :
    (flatmapping arguments).run call = .value <$> Prelude.flatMapped call arguments := by
  match arguments with
  | [] => rfl
  | [_] => rfl
  | [procedure, value] =>
      simp only [flatmapping, run_attempt, Prelude.flatMapped, map_bind, run_each_flat]
      congr 1
      funext items
      rw [map_eq_pure_bind, map_eq_pure_bind, bind_assoc]
      rfl
  | _ :: _ :: _ :: _ => rfl

end Dialogue

/-- Running a native function is holding its dialogue. -/
theorem Native.invoke_eq_run (call : Caller) (function : Native) (arguments : List Value) :
    Prelude.invoke call function arguments = (function.dialogue arguments).run call := by
  cases function with
  | map => exact (Dialogue.run_mapping call arguments).symm
  | filter => exact (Dialogue.run_filtering call arguments).symm
  | reduce => exact (Dialogue.run_reducing call arguments).symm
  | flatmap => exact (Dialogue.run_flatmapping call arguments).symm
  | _ => rfl

end Lisplet
