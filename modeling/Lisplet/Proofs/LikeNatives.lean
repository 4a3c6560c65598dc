import Lisplet.Proofs.Likeness
import Lisplet.Proofs.RelocatedNatives

/-!
# Native functions side by side

In machines that are alike, a native function holds the same dialogue on arguments
that are alike: it asks for the same applications, and it answers alike. With this
the applications of two evaluations are alike, however deep they nest.
-/

namespace Lisplet

def Reply.relocate (move : Location → Location) : Reply → Reply
  | .value answer => .value (answer.relocate move)
  | .foreign kind => .foreign kind

namespace Prelude

theorem uncons_relocate (move : Location → Location) (lists : List (List Value)) :
    uncons (lists.map (List.map (Value.relocate move))) =
      (uncons lists).map fun (heads, tails) =>
        (heads.map (Value.relocate move), tails.map (List.map (Value.relocate move))) := by
  fun_induction uncons lists with
  | case1 => rfl
  | case2 => rfl
  | case3 item items rest ih =>
      simp only [List.map_cons, uncons, ih, Option.map_map]
      rfl

theorem rows_relocate (move : Location → Location) (items : List Value)
    (others : List (List Value)) :
    rows (items.map (Value.relocate move)) (others.map (List.map (Value.relocate move))) =
      (rows items others).map (List.map (Value.relocate move)) := by
  fun_induction rows items others with
  | case1 => rfl
  | case2 item items others none => simp only [List.map_cons, rows, uncons_relocate, none]; rfl
  | case3 item items others heads tails taken ih =>
      simp only [List.map_cons, rows, uncons_relocate, taken, Option.map_some, ih]

end Prelude

namespace Likeness

variable {like : Likeness}

theorem Machines.settled {first second : Machine} (machines : like.Machines first second) :
    like.Machines first.settled second.settled := by
  unfold Machine.settled
  rw [machines.traceFile]
  cases kept : first.traceFile with
  | none => exact { machines with traceFile := machines.traceFile }
  | some file =>
      have filed : like.filed := machines.filed (by simp [kept])
      have caught := like.caught_up filed machines.shown file
      dsimp only
      rw [caught, machines.files]
      exact { machines with files := rfl, traceFile := rfl, filed := fun _ => filed }

variable (like) in
/-- The second reply is the first one, moved. -/
def Replies (first second : Reply) : Prop :=
  second = first.relocate like.move

section Answers

open Prelude

theorem pure_reply_alike {compute : List Value → Except Fault Value}
    (follows : Follows like.move compute) (arguments : List Value) :
    like.Alike like.Replies (pureReply (compute arguments))
      (pureReply (compute (arguments.map (Value.relocate like.move)))) := by
  rw [follows arguments]
  unfold pureReply
  have computed : like.Alike (fun first second => second = first.relocate like.move)
      (EvalM.ofExcept (compute arguments))
      (EvalM.ofExcept (Value.relocate like.move <$> compute arguments)) :=
    alike_of_except _ fun _ _ => rfl
  exact computed.map fun _ _ same => congrArg Reply.value same

theorem fresh_serial_alike : like.Alike Eq EvalM.freshSerial EvalM.freshSerial :=
  fun _ _ machines => .done machines.serial.symm
    { machines with serial := congrArg (· + 1) machines.serial }

theorem settle_alike : like.Alike like.Machines EvalM.settle EvalM.settle :=
  fun _ _ machines => .done machines.settled machines.settled

theorem emit_alike (text : String) :
    like.Alike (fun _ _ => True) (EvalM.emit (.display text)) (EvalM.emit (.display text)) :=
  alike_modify fun _ _ machines =>
    { machines with shown := like.display machines.shown text }

theorem of_except_alike {Result : Type} (result : Except Fault Result) :
    like.Alike Eq (EvalM.ofExcept result) (EvalM.ofExcept result) := by
  cases result with
  | ok value => exact alike_pure rfl
  | error cause => exact alike_fault cause

theorem numeric_reply_alike {compute : Nat → List Value → Except Fault Value}
    (follows : ∀ serial, Follows like.move (compute serial)) (arguments : List Value) :
    like.Alike like.Replies (numericReply fun serial => compute serial arguments)
      (numericReply fun serial =>
        compute serial (arguments.map (Value.relocate like.move))) := by
  refine fresh_serial_alike.bind ?_
  rintro serial _ rfl
  exact pure_reply_alike (follows serial) arguments

theorem nil_reply : like.Replies (.value .nil) (.value .nil) := rfl

theorem displayed_alike (arguments : List Value) :
    like.Alike like.Replies (.value <$> displayed arguments)
      (.value <$> displayed (arguments.map (Value.relocate like.move))) := by
  unfold displayed
  rw [joined_relocate]
  simp only [map_bind, map_pure]
  refine (of_except_alike _).bind ?_
  rintro line _ rfl
  exact (emit_alike _).bind fun _ _ _ => alike_pure nil_reply

theorem file_read_alike (arguments : List Value) :
    like.Alike like.Replies (.value <$> fileRead arguments)
      (.value <$> fileRead (arguments.map (Value.relocate like.move))) := by
  match arguments with
  | [] => exact alike_fault _
  | [pathValue] =>
      simp only [List.map_cons, List.map_nil, fileRead, text_for_relocate, map_bind, map_pure]
      refine (of_except_alike _).bind ?_
      rintro path _ rfl
      refine settle_alike.bind fun first second machines => ?_
      rw [machines.files]
      refine (of_except_alike _).bind ?_
      rintro content _ rfl
      exact alike_pure rfl
  | one :: two :: rest =>
      simp only [List.map_cons, fileRead, refuseExact, List.length_cons, List.length_map]
      exact alike_fault _

theorem file_written_alike (arguments : List Value) :
    like.Alike like.Replies (.value <$> fileWritten arguments)
      (.value <$> fileWritten (arguments.map (Value.relocate like.move))) := by
  match arguments with
  | [] => exact alike_fault _
  | [_] => exact alike_fault _
  | [pathValue, value] =>
      simp only [List.map_cons, List.map_nil, fileWritten, text_for_relocate,
        Value.display_text_relocate, map_bind]
      refine (of_except_alike _).bind ?_
      rintro path _ rfl
      refine settle_alike.bind fun first second machines => ?_
      rw [machines.files]
      refine (of_except_alike _).bind ?_
      rintro ⟨place, opened⟩ _ rfl
      have emptied : like.Alike (fun _ _ => True)
          (set { first with files := opened } : EvalM PUnit)
          (set { second with files := opened }) :=
        fun _ _ _ => .done trivial { machines with files := rfl }
      refine emptied.bind fun _ _ _ => ?_
      refine (alike_of_text _).bind ?_
      rintro content _ rfl
      cases content with
      | none => exact alike_fault _
      | some text =>
          simp only [map_bind, map_pure]
          refine (alike_modify fun first second machines => ?_).bind fun _ _ _ =>
            alike_pure nil_reply
          exact { machines with files := by rw [machines.files] }
  | one :: two :: three :: rest =>
      simp only [List.map_cons, fileWritten, refuseExact, List.length_cons, List.length_map]
      exact alike_fault _

theorem probed_alike (probe : Probe) (arguments : List Value) :
    like.Alike like.Replies (probed probe arguments)
      (probed probe (arguments.map (Value.relocate like.move))) := by
  cases arguments with
  | nil => cases probe <;> exact alike_fault _
  | cons value rest =>
      cases probe with
      | touch =>
          simp only [List.map_cons, probed, Value.describe_relocate]
          refine (alike_of_text _).bind ?_
          rintro described _ rfl
          refine (alike_modify fun first second machines => ?_).bind fun _ _ _ => alike_pure rfl
          exact { machines with notes := by rw [machines.notes] }
      | fail =>
          simp only [List.map_cons, probed, Value.describe_relocate]
          refine (alike_of_text _).bind ?_
          rintro described _ rfl
          exact alike_fault _
      | bad =>
          cases value with
          | atom value =>
              cases value with
              | string word =>
                  simp only [List.map_cons, Value.relocate_atom, probed]
                  cases foreignKind? word with
                  | some kind => exact alike_pure rfl
                  | none => exact alike_fault _
              | _ => exact alike_pure rfl
          | _ => exact alike_pure rfl

end Answers

/-- Dialogues that ask alike and answer alike. -/
inductive Echoes (like : Likeness) : Dialogue → Dialogue → Prop where
  | answer {action echo : EvalM Reply} (alike : like.Alike like.Replies action echo) :
      Echoes like (.answer action) (.answer echo)
  | ask {procedure : Value} {arguments : List Value} {next echoNext : Value → Dialogue}
      (rest : ∀ value, Echoes like (next value) (echoNext (value.relocate like.move))) :
      Echoes like (.ask procedure arguments next)
        (.ask (procedure.relocate like.move) (arguments.map (Value.relocate like.move)) echoNext)

section Dialogues

open Dialogue

theorem echoes_reply {value other : Value} (same : other = value.relocate like.move) :
    like.Echoes (reply value) (reply other) :=
  .answer (alike_pure (congrArg Reply.value same))

theorem echoes_fault (cause : Fault) :
    like.Echoes (.answer (EvalM.fault cause)) (.answer (EvalM.fault cause)) :=
  .answer (alike_fault cause)

theorem echoes_attempt {Result : Type} {change : Result → Result} {result : Except Fault Result}
    {next echoNext : Result → Dialogue}
    (rest : ∀ value, like.Echoes (next value) (echoNext (change value))) :
    like.Echoes (attempt result next) (attempt (change <$> result) echoNext) := by
  cases result with
  | ok value => exact rest value
  | error cause => exact echoes_fault cause

theorem echoes_each_row (procedure : Value) (rows : List (List Value))
    {next echoNext : List Value → Dialogue}
    (rest : ∀ results,
      like.Echoes (next results) (echoNext (results.map (Value.relocate like.move)))) :
    like.Echoes (eachRow procedure rows next)
      (eachRow (procedure.relocate like.move) (rows.map (List.map (Value.relocate like.move)))
        echoNext) := by
  induction rows generalizing next echoNext with
  | nil => exact rest []
  | cons row rows ih => exact .ask fun result => ih fun results => rest (result :: results)

theorem echoes_each_kept (procedure : Value) (items : List Value)
    {next echoNext : List Value → Dialogue}
    (rest : ∀ kept,
      like.Echoes (next kept) (echoNext (kept.map (Value.relocate like.move)))) :
    like.Echoes (eachKept procedure items next)
      (eachKept (procedure.relocate like.move) (items.map (Value.relocate like.move))
        echoNext) := by
  induction items generalizing next echoNext with
  | nil => exact rest []
  | cons item items ih =>
      refine .ask fun verdict => ih fun kept => ?_
      rw [Value.truthy_relocate]
      split_ifs
      · exact rest (item :: kept)
      · exact rest kept

theorem echoes_each_joined (procedure total : Value) (items : List Value) :
    like.Echoes (eachJoined procedure total items)
      (eachJoined (procedure.relocate like.move) (total.relocate like.move)
        (items.map (Value.relocate like.move))) := by
  induction items generalizing total with
  | nil => exact echoes_reply rfl
  | cons item items ih => exact .ask fun next => ih next

theorem echoes_each_flat (procedure : Value) (items : List Value)
    {next echoNext : List Value → Dialogue}
    (rest : ∀ results,
      like.Echoes (next results) (echoNext (results.map (Value.relocate like.move)))) :
    like.Echoes (eachFlat procedure items next)
      (eachFlat (procedure.relocate like.move) (items.map (Value.relocate like.move))
        echoNext) := by
  induction items generalizing next echoNext with
  | nil => exact rest []
  | cons item items ih =>
      refine .ask fun result => ?_
      rw [Prelude.sequence_relocate]
      refine echoes_attempt fun found => ih fun others => ?_
      rw [← List.map_append]
      exact rest (found ++ others)

theorem echoes_mapping (arguments : List Value) :
    like.Echoes (mapping arguments)
      (mapping (arguments.map (Value.relocate like.move))) := by
  match arguments with
  | [] => exact echoes_fault _
  | [_] => exact echoes_fault _
  | procedure :: value :: values =>
      simp only [List.map_cons, mapping]
      rw [← List.map_cons, Prelude.sequences_relocate]
      refine echoes_attempt fun lists => ?_
      cases lists with
      | nil => exact echoes_reply rfl
      | cons head others =>
          rw [List.map_cons]
          dsimp only
          rw [Prelude.rows_relocate]
          exact echoes_each_row procedure _ fun results =>
            echoes_reply (Value.relocate_list _ _).symm

theorem echoes_filtering (arguments : List Value) :
    like.Echoes (filtering arguments)
      (filtering (arguments.map (Value.relocate like.move))) := by
  match arguments with
  | [] => exact echoes_fault _
  | [_] => exact echoes_fault _
  | [procedure, value] =>
      simp only [List.map_cons, List.map_nil, filtering, Prelude.sequence_relocate]
      exact echoes_attempt fun items => echoes_each_kept procedure items fun kept =>
        echoes_reply (Value.relocate_list _ _).symm
  | one :: two :: three :: rest =>
      simp only [List.map_cons, filtering, Prelude.refuseCount, List.length_cons, List.length_map]
      exact echoes_fault _

theorem echoes_reducing (arguments : List Value) :
    like.Echoes (reducing arguments)
      (reducing (arguments.map (Value.relocate like.move))) := by
  match arguments with
  | [] => exact echoes_fault _
  | [_] => exact echoes_fault _
  | [procedure, value] =>
      simp only [List.map_cons, List.map_nil, reducing, Prelude.sequence_relocate]
      refine echoes_attempt fun items => ?_
      cases items with
      | nil => exact .ask fun result => echoes_reply rfl
      | cons head others => exact echoes_each_joined procedure head others
  | [procedure, start, value] =>
      simp only [List.map_cons, List.map_nil, reducing, Prelude.sequence_relocate]
      exact echoes_attempt fun items => echoes_each_joined procedure start items
  | one :: two :: three :: four :: rest =>
      simp only [List.map_cons, reducing, Prelude.refuseCount, List.length_cons, List.length_map]
      exact echoes_fault _

theorem echoes_flatmapping (arguments : List Value) :
    like.Echoes (flatmapping arguments)
      (flatmapping (arguments.map (Value.relocate like.move))) := by
  match arguments with
  | [] => exact echoes_fault _
  | [_] => exact echoes_fault _
  | [procedure, value] =>
      simp only [List.map_cons, List.map_nil, flatmapping, Prelude.sequence_relocate]
      exact echoes_attempt fun items => echoes_each_flat procedure items fun results =>
        echoes_reply (Value.relocate_list _ _).symm
  | one :: two :: three :: rest =>
      simp only [List.map_cons, flatmapping, Prelude.refuseCount, List.length_cons,
        List.length_map]
      exact echoes_fault _

/-- Every native function holds the same dialogue in both evaluations. -/
theorem dialogue_echoes (function : Native) (arguments : List Value) :
    like.Echoes (function.dialogue arguments)
      (function.dialogue (arguments.map (Value.relocate like.move))) := by
  have same (negate : Bool → Bool) (kind : Native) :
      Prelude.Follows like.move fun values =>
        (fun equal => Value.boolean (negate equal)) <$> Prelude.allSame kind values := by
    intro values
    dsimp only
    rw [Prelude.all_same_relocate]
    exact (Prelude.relocate_made like.move (fun equal => .boolean (negate equal)) _).symm
  cases function with
  | map => exact echoes_mapping arguments
  | filter => exact echoes_filtering arguments
  | reduce => exact echoes_reducing arguments
  | flatmap => exact echoes_flatmapping arguments
  | display => exact .answer (displayed_alike arguments)
  | readFile => exact .answer (file_read_alike arguments)
  | writeFile => exact .answer (file_written_alike arguments)
  | equal => exact .answer (pure_reply_alike (same id .equal) arguments)
  | notEqual => exact .answer (pure_reply_alike (same not .notEqual) arguments)
  | greater => exact .answer (pure_reply_alike (Prelude.follows_ordered _ _ _) arguments)
  | greaterEqual => exact .answer (pure_reply_alike (Prelude.follows_ordered _ _ _) arguments)
  | less => exact .answer (pure_reply_alike (Prelude.follows_ordered _ _ _) arguments)
  | lessEqual => exact .answer (pure_reply_alike (Prelude.follows_ordered _ _ _) arguments)
  | add => exact .answer (numeric_reply_alike (Prelude.follows_sum _) arguments)
  | subtract => exact .answer (numeric_reply_alike (Prelude.follows_difference _) arguments)
  | multiply => exact .answer (numeric_reply_alike (Prelude.follows_product _) arguments)
  | divide => exact .answer (numeric_reply_alike (Prelude.follows_quotient _) arguments)
  | isNumber => exact .answer (pure_reply_alike (Prelude.follows_number_test _) arguments)
  | negate => exact .answer (pure_reply_alike (Prelude.follows_negation _) arguments)
  | conjunction => exact echoes_reply (Prelude.first_false_relocate _ arguments)
  | disjunction => exact echoes_reply (Prelude.first_true_relocate _ arguments)
  | stringJoin => exact .answer (pure_reply_alike (Prelude.follows_string_joined _) arguments)
  | stringSplit => exact .answer (pure_reply_alike (Prelude.follows_string_split_at _) arguments)
  | stringUpcase => exact .answer (pure_reply_alike (Prelude.follows_map_text _ _ _ _) arguments)
  | stringDowncase => exact .answer (pure_reply_alike (Prelude.follows_map_text _ _ _ _) arguments)
  | stringReverse => exact .answer (pure_reply_alike (Prelude.follows_map_text _ _ _ _) arguments)
  | stringTrim => exact .answer (pure_reply_alike (Prelude.follows_map_text _ _ _ _) arguments)
  | startsWith => exact .answer (pure_reply_alike (Prelude.follows_test_text _ _ _ _ _) arguments)
  | endsWith => exact .answer (pure_reply_alike (Prelude.follows_test_text _ _ _ _ _) arguments)
  | list => exact echoes_reply (Value.relocate_list _ arguments).symm
  | first => exact .answer (pure_reply_alike (Prelude.follows_first_element _) arguments)
  | rest => exact .answer (pure_reply_alike (Prelude.follows_other_elements _) arguments)
  | nth => exact .answer (pure_reply_alike (Prelude.follows_element_at _) arguments)
  | take => exact .answer (pure_reply_alike (Prelude.follows_taken _) arguments)
  | drop => exact .answer (pure_reply_alike (Prelude.follows_dropped _) arguments)
  | count => exact .answer (pure_reply_alike (Prelude.follows_counted _) arguments)
  | probe instrument => exact .answer (probed_alike instrument arguments)

end Dialogues

section Applications

variable {apply echo : Applier}

/-- Dialogues that echo each other are held alike; what is passed on in them was given
to the function or is the result of an application. -/
theorem Echoes.run_alike {call echoCall : Caller} {dialogue other : Dialogue}
    (echoes : like.Echoes dialogue other) (tame : dialogue.Tame like.Known)
    (called : ∀ {procedure answer : Value} {arguments others : List Value},
      like.Values procedure answer → like.Lists arguments others →
        like.Alike like.Values (call procedure arguments) (echoCall answer others)) :
    like.Alike (fun first second => like.Replies first second ∧ first.Within like.Known)
      (dialogue.run call) (other.run echoCall) := by
  induction echoes with
  | answer alike =>
      cases tame with
      | answer quiet =>
          exact alike.ensuring fun machine =>
            (quiet machine).weaken (fun _ _ kept => kept.2) fun _ _ _ => trivial
  | ask rest ih =>
      cases tame with
      | ask given passed next =>
          refine (called ⟨rfl, given⟩ ⟨rfl, passed⟩).bind ?_
          rintro value _ ⟨rfl, known⟩
          exact ih value (next value known)

theorem call_native_alike (applied : like.Appliers apply echo) (function : Native)
    {arguments others : List Value} (same : like.Lists arguments others) (site : ScopeId) :
    like.Alike like.Values (callNative like.tracing apply function arguments site)
      (callNative like.echoing echo function others site) := by
  obtain ⟨rfl, known⟩ := same
  unfold callNative
  refine .announced (fun _ _ _ => rfl) ?_
  rw [Native.invoke_eq_run, Native.invoke_eq_run]
  have held := (dialogue_echoes function arguments).run_alike (function.dialogue_tame known)
    fun called given => call_back_alike applied called given
  refine ((held.inside_native site).blame_native site).bind ?_
  rintro reply _ ⟨rfl, within⟩
  cases reply with
  | value answer => exact alike_pure ⟨rfl, within⟩
  | «foreign» kind => exact alike_throw _

theorem refused_alike (value : Value) (site : ScopeId) :
    like.Alike like.Values
      (do
        let described ← EvalM.ofText value.describe
        throw (.native (.notProcedure described) site))
      (do
        let described ← EvalM.ofText (value.relocate like.move).describe
        throw (.native (.notProcedure described) site)) := by
  rw [Value.describe_relocate]
  refine (alike_of_text _).bind ?_
  rintro described _ rfl
  exact alike_throw _

theorem apply_with_alike (applied : like.Appliers apply echo) :
    like.Appliers (applyWith like.tracing apply) (applyWith like.echoing echo) := by
  rintro callee _ arguments others ⟨rfl, known⟩ same site
  unfold applyWith
  cases callee with
  | closure closure =>
      exact call_closure_alike applied (Value.within_closure.mp known) same site
  | native function => exact call_native_alike applied function same site
  | atom value => exact refused_alike (.atom value) site
  | list items => exact refused_alike (.list items) site
  | form expression => exact refused_alike (.form expression) site

theorem apply_within_alike (limit : Nat) :
    like.Appliers (applyWithin like.tracing limit) (applyWithin like.echoing limit) := by
  induction limit with
  | zero => exact fun _ _ _ => alike_fault _
  | succ limit ih => exact apply_with_alike ih

/-- A program ends alike in machines that are alike. -/
theorem program_alike (limit : Nat) {scope : ScopeId} (near : like.near scope)
    (program : List Expr) :
    like.Alike like.Values
      (evalSequence like.tracing (applyWithin like.tracing limit) scope .nil program)
      (evalSequence like.echoing (applyWithin like.echoing limit) scope .nil
        (Expr.relocateAll like.move program)) :=
  eval_sequence_alike (apply_within_alike limit) near nil_alike program

end Applications

end Likeness

end Lisplet
