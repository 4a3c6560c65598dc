import Lisplet.Proofs.Natives
import Lisplet.Proofs.Script

/-!
# Who runs out of recursion

Native functions and the steps of an evaluation fail in many ways, but none of them finds
the recursion too deep: that is left to the applier. So where this fault comes up, an
application has raised it.
-/

namespace Lisplet

/-- A result that is not the fault of too deep a recursion. -/
def Shallow {Result : Type} (result : Except Fault Result) : Prop :=
  result ≠ .error .recursionTooDeep

section Results

variable {First Result : Type} {first : Except Fault First}

theorem shallow_ok (value : Result) : Shallow (.ok value) :=
  nofun

theorem shallow_error {cause : Fault} (other : cause ≠ .recursionTooDeep) :
    Shallow (.error cause : Except Fault Result) := by
  simpa [Shallow] using other

theorem shallow_bind {next : First → Except Fault Result} (begun : Shallow first)
    (rest : ∀ value, Shallow (next value)) : Shallow (first >>= next) := by
  cases first with
  | ok value => exact rest value
  | error cause => exact shallow_error fun deep => begun (congrArg Except.error deep)

theorem shallow_map {change : First → Result} (begun : Shallow first) :
    Shallow (change <$> first) := by
  rw [map_eq_pure_bind]
  exact shallow_bind begun fun value => shallow_ok (change value)

end Results

namespace Prelude

theorem complain_shallow {Result : Type} (value : Value) {fault : String → Fault}
    (other : ∀ described, fault described ≠ .recursionTooDeep) :
    Shallow (complain value fault : Except Fault Result) := by
  unfold complain
  split
  · exact shallow_error (other _)
  · exact shallow_error nofun

theorem need_at_least_shallow (function : Native) (least : Nat) (arguments : List Value) :
    Shallow (needAtLeast function least arguments) := by
  unfold needAtLeast
  split_ifs
  · exact shallow_error nofun
  · exact shallow_ok ()

theorem numbers_shallow (function : Native) (arguments : List Value) :
    Shallow (numbers function arguments) := by
  induction arguments with
  | nil => exact shallow_ok []
  | cons value rest ih =>
      unfold numbers
      split
      · exact shallow_ok []
      next same =>
        cases same
        exact shallow_bind ih fun others => shallow_ok _
      · exact complain_shallow _ nofun

theorem text_shallow (function : Native) (value : Value) : Shallow (text function value) := by
  unfold text
  split
  · exact shallow_ok _
  · exact shallow_ok _
  · exact complain_shallow _ nofun

theorem text_for_shallow (function : Native) (use : TextUse) (value : Value) :
    Shallow (textFor function use value) := by
  refine shallow_bind (text_shallow function value) fun content => ?_
  cases content with
  | none => exact shallow_error nofun
  | some content => exact shallow_ok content

theorem integer_shallow (function : Native) (value : Value) :
    Shallow (integer function value) := by
  unfold integer
  split
  · exact shallow_ok _
  · exact complain_shallow _ nofun

theorem sequence_shallow (function : Native) (value : Value) :
    Shallow (sequence function value) := by
  unfold sequence
  split
  · exact shallow_ok _
  · exact shallow_ok _
  · exact complain_shallow _ nofun

theorem sequences_shallow (function : Native) (values : List Value) :
    Shallow (sequences function values) := by
  induction values with
  | nil => exact shallow_ok []
  | cons value rest ih =>
      exact shallow_bind (sequence_shallow function value) fun items =>
        shallow_bind ih fun others => shallow_ok (items :: others)

theorem joined_shallow (separator : String) (values : List Value) :
    Shallow (joined separator values) := by
  have texts (index : Nat) (found : List (Option String)) :
      Shallow (joinTexts separator index found) := by
    fun_induction joinTexts separator index found with
    | case1 => exact shallow_ok ""
    | case2 => exact shallow_error nofun
    | case3 index text => exact shallow_ok text
    | case4 index text rest _ ih => exact shallow_bind ih fun others => shallow_ok _
  unfold joined
  split
  · exact texts 0 _
  · exact shallow_error nofun

theorem all_same_shallow (function : Native) (arguments : List Value) :
    Shallow (allSame function arguments) := by
  refine shallow_bind (need_at_least_shallow function 1 arguments) fun _ => ?_
  split
  · exact shallow_ok _
  · exact shallow_error nofun

theorem ordered_shallow (function : Native) (accepts : Ordering → Bool)
    (arguments : List Value) : Shallow (ordered function accepts arguments) :=
  shallow_bind (need_at_least_shallow function 1 arguments) fun _ =>
    shallow_bind (numbers_shallow function arguments) fun _ => shallow_ok _

theorem fold_numbers_shallow (operation : Number → Number → Except ArithmeticFault Number)
    (total : Number) (operands : List Number) : Shallow (foldNumbers operation total operands) := by
  induction operands generalizing total with
  | nil => exact shallow_ok total
  | cons operand rest ih =>
      refine shallow_bind ?_ ih
      unfold arithmetic
      split
      · exact shallow_ok _
      · exact shallow_error nofun

theorem sum_shallow (serial : Nat) (arguments : List Value) : Shallow (sum serial arguments) :=
  shallow_bind (numbers_shallow .add arguments) fun operands =>
    shallow_bind (fold_numbers_shallow _ _ operands) fun _ => shallow_ok _

theorem product_shallow (serial : Nat) (arguments : List Value) :
    Shallow (product serial arguments) :=
  shallow_bind (numbers_shallow .multiply arguments) fun operands =>
    shallow_bind (fold_numbers_shallow _ _ operands) fun _ => shallow_ok _

theorem difference_shallow (serial : Nat) (arguments : List Value) :
    Shallow (difference serial arguments) := by
  refine shallow_bind (need_at_least_shallow .subtract 1 arguments) fun _ =>
    shallow_bind (numbers_shallow .subtract arguments) fun operands => ?_
  split
  · exact shallow_ok _
  · exact shallow_ok _
  · exact shallow_map (fold_numbers_shallow _ _ _)

theorem quotient_shallow (serial : Nat) (arguments : List Value) :
    Shallow (quotient serial arguments) := by
  refine shallow_bind (need_at_least_shallow .divide 1 arguments) fun _ =>
    shallow_bind (numbers_shallow .divide arguments) fun operands => ?_
  split
  · exact shallow_ok _
  · exact shallow_map (fold_numbers_shallow _ _ _)
  · exact shallow_map (fold_numbers_shallow _ _ _)

theorem number_test_shallow (arguments : List Value) : Shallow (numberTest arguments) := by
  unfold numberTest
  split
  · exact shallow_ok _
  · exact shallow_ok _
  · exact shallow_error nofun

theorem negation_shallow (arguments : List Value) : Shallow (negation arguments) := by
  unfold negation
  split
  · exact shallow_ok _
  · exact shallow_error nofun

theorem string_joined_shallow (arguments : List Value) : Shallow (stringJoined arguments) := by
  unfold stringJoined
  split
  · exact shallow_bind (sequence_shallow _ _) fun items => shallow_map (joined_shallow _ items)
  · refine shallow_bind (text_shallow _ _) fun separator =>
      shallow_bind (sequence_shallow _ _) fun items => ?_
    cases separator with
    | none => exact shallow_error nofun
    | some content => exact shallow_map (joined_shallow content items)
  · exact shallow_error nofun

theorem string_split_at_shallow (arguments : List Value) : Shallow (stringSplitAt arguments) := by
  unfold stringSplitAt
  split
  · refine shallow_bind (text_shallow _ _) fun subject =>
      shallow_bind (text_for_shallow _ _ _) fun pattern => ?_
    split
    · exact shallow_error nofun
    · cases subject with
      | none => exact shallow_error nofun
      | some content => exact shallow_ok _
  · exact shallow_error nofun

theorem map_text_shallow (function : Native) (use : TextUse) (change : String → String)
    (arguments : List Value) : Shallow (mapText function use change arguments) := by
  unfold mapText
  split
  · exact shallow_bind (text_for_shallow _ _ _) fun _ => shallow_ok _
  · exact shallow_error nofun

theorem test_text_shallow (function : Native) (use otherUse : TextUse)
    (related : List Char → List Char → Bool) (arguments : List Value) :
    Shallow (testText function use otherUse related arguments) := by
  unfold testText
  split
  · exact shallow_bind (text_for_shallow _ _ _) fun _ =>
      shallow_bind (text_for_shallow _ _ _) fun _ => shallow_ok _
  · exact shallow_error nofun

theorem first_element_shallow (arguments : List Value) : Shallow (firstElement arguments) := by
  unfold firstElement
  split
  · exact shallow_bind (sequence_shallow _ _) fun _ => shallow_ok _
  · exact shallow_error nofun

theorem other_elements_shallow (arguments : List Value) : Shallow (otherElements arguments) := by
  unfold otherElements
  split
  · exact shallow_bind (sequence_shallow _ _) fun _ => shallow_ok _
  · exact shallow_error nofun

theorem element_at_shallow (arguments : List Value) : Shallow (elementAt arguments) := by
  unfold elementAt
  split
  · refine shallow_bind (sequence_shallow _ _) fun items =>
      shallow_bind (integer_shallow _ _) fun index => ?_
    dsimp only
    split
    · exact shallow_ok _
    · split_ifs
      · exact shallow_error (by simp)
      · exact shallow_error (by simp)
  · exact shallow_error (by simp)

theorem taken_shallow (arguments : List Value) : Shallow (taken arguments) := by
  unfold taken
  split
  · exact shallow_bind (integer_shallow _ _) fun _ =>
      shallow_bind (sequence_shallow _ _) fun _ => shallow_ok _
  · exact shallow_error nofun

theorem dropped_shallow (arguments : List Value) : Shallow (dropped arguments) := by
  unfold dropped
  split
  · exact shallow_bind (integer_shallow _ _) fun _ =>
      shallow_bind (sequence_shallow _ _) fun _ => shallow_ok _
  · exact shallow_error nofun

theorem counted_shallow (arguments : List Value) : Shallow (counted arguments) := by
  unfold counted
  split
  · exact shallow_ok _
  · exact shallow_error nofun
  · exact shallow_bind (sequence_shallow _ _) fun _ => shallow_ok _
  · exact shallow_error nofun

end Prelude

/-- Applications nested too deep, for the host itself or inside a native function. -/
def Failure.TooDeep : Failure → Prop
  | .host cause => cause = .recursionTooDeep
  | .native cause _ => cause = .recursionTooDeep
  | _ => False

namespace EvalM

/-- An action that never finds the recursion too deep. -/
def Shallow {Result : Type} (action : EvalM Result) : Prop :=
  ∀ machine, Ensures action machine (fun _ _ => True) fun failure _ => ¬ failure.TooDeep

variable {First Result : Type}

theorem Shallow.bind {action : EvalM First} {next : First → EvalM Result}
    (begun : action.Shallow) (rest : ∀ value, (next value).Shallow) :
    (action >>= next).Shallow := by
  intro machine
  rw [ensures_bind]
  exact (begun machine).weaken (fun value after _ => rest value after) fun _ _ other => other

theorem shallow_pure (value : Result) : (pure value : EvalM Result).Shallow :=
  fun _ => trivial

theorem Shallow.map {action : EvalM First} {change : First → Result} (begun : action.Shallow) :
    (change <$> action).Shallow := by
  rw [map_eq_pure_bind]
  exact begun.bind fun value => shallow_pure (change value)

theorem shallow_throw {failure : Failure} (other : ¬ failure.TooDeep) :
    (throw failure : EvalM Result).Shallow :=
  fun _ => other

theorem shallow_of_except {result : Except Fault Result} (shallow : Lisplet.Shallow result) :
    (ofExcept result).Shallow := by
  cases result with
  | ok value => exact shallow_pure value
  | error cause => exact shallow_throw fun deep => shallow (congrArg Except.error deep)

theorem shallow_of_text (text : Except Unwritable Result) : (ofText text).Shallow := by
  cases text with
  | ok value => exact shallow_pure value
  | error reason => exact shallow_throw nofun

theorem shallow_modify (change : Machine → Machine) : (modify change : EvalM PUnit).Shallow :=
  fun _ => trivial

theorem shallow_announce (tracing : Bool) (step : Machine → TraceStep) :
    (announce tracing step).Shallow := by
  unfold announce
  split_ifs
  · intro machine
    rw [ensures_bind, ensures_get]
    exact (shallow_of_text (step machine).render).bind (fun _ => shallow_modify _) machine
  · exact shallow_pure ()

end EvalM

namespace Prelude

theorem pure_reply_shallow {result : Except Fault Value} (shallow : Shallow result) :
    (pureReply result).Shallow :=
  (EvalM.shallow_of_except shallow).map

theorem numeric_reply_shallow {compute : Nat → Except Fault Value}
    (shallow : ∀ serial, Shallow (compute serial)) : (numericReply compute).Shallow :=
  fun machine => pure_reply_shallow (shallow machine.serial) _

theorem displayed_shallow (arguments : List Value) : (displayed arguments).Shallow :=
  (EvalM.shallow_of_except (joined_shallow " " arguments)).bind fun _ _ => trivial

theorem file_read_shallow (arguments : List Value) : (fileRead arguments).Shallow := by
  have read (files : FileSystem) (path : String) : Shallow (files.readText path) := by
    unfold FileSystem.readText FileSystem.readDecoded
    split_ifs
    · exact shallow_error (by simp)
    · split
      · exact shallow_error (by simp)
      · split
        · exact shallow_error (by simp)
        · exact shallow_ok _
  unfold fileRead
  split
  · refine (EvalM.shallow_of_except (text_for_shallow _ _ _)).bind fun path machine => ?_
    rw [EvalM.settle, ensures_bind, ensures_modify_get]
    exact (EvalM.shallow_of_except (read machine.settled.files path)).bind
      (fun content => EvalM.shallow_pure (Value.string content)) machine.settled
  · exact EvalM.shallow_of_except (shallow_error (by simp))

theorem file_written_shallow (arguments : List Value) : (fileWritten arguments).Shallow := by
  have opened (files : FileSystem) (path : String) : Shallow (files.openForWriting path) := by
    unfold FileSystem.openForWriting
    split_ifs
    · exact shallow_error (by simp)
    · split
      · exact shallow_error (by simp)
      · exact shallow_ok _
  unfold fileWritten
  split
  next pathValue value =>
    refine (EvalM.shallow_of_except (text_for_shallow _ _ _)).bind fun path machine => ?_
    rw [EvalM.settle, ensures_bind, ensures_modify_get]
    refine (EvalM.shallow_of_except (opened machine.settled.files path)).bind (fun file _ => ?_)
      machine.settled
    refine (EvalM.shallow_of_text value.displayText).bind (fun content => ?_) _
    cases content with
    | none => exact EvalM.shallow_throw (by simp [Failure.TooDeep])
    | some content => exact fun _ => trivial
  next => exact EvalM.shallow_of_except (shallow_error (by simp))

theorem probed_shallow (probe : Probe) (arguments : List Value) :
    (probed probe arguments).Shallow := by
  unfold probed
  split
  · exact EvalM.shallow_throw nofun
  · split
    · exact EvalM.shallow_pure _
    · exact EvalM.shallow_throw nofun
  · exact EvalM.shallow_pure _
  · exact EvalM.shallow_throw nofun
  · exact EvalM.shallow_throw nofun
  · exact (EvalM.shallow_of_text _).bind fun _ _ => trivial
  · exact (EvalM.shallow_of_text _).bind fun _ => EvalM.shallow_throw nofun

end Prelude

/-- The answers of a dialogue never find the recursion too deep. -/
def Dialogue.Shallow : Dialogue → Prop
  | .answer action => action.Shallow
  | .ask _ _ next => ∀ value, (next value).Shallow

namespace Dialogue

theorem shallow_reply (value : Value) : (reply value).Shallow :=
  EvalM.shallow_pure (Reply.value value)

theorem shallow_attempt {Result : Type} {result : Except Fault Result} {next : Result → Dialogue}
    (begun : Lisplet.Shallow result) (rest : ∀ value, (next value).Shallow) :
    (attempt result next).Shallow := by
  cases result with
  | ok value => exact rest value
  | error cause => exact EvalM.shallow_of_except begun

theorem shallow_each_row (procedure : Value) (rows : List (List Value))
    {next : List Value → Dialogue} (rest : ∀ results, (next results).Shallow) :
    (eachRow procedure rows next).Shallow := by
  induction rows generalizing next with
  | nil => exact rest []
  | cons row rows ih => exact fun result => ih fun results => rest (result :: results)

theorem shallow_each_kept (procedure : Value) (items : List Value)
    {next : List Value → Dialogue} (rest : ∀ kept, (next kept).Shallow) :
    (eachKept procedure items next).Shallow := by
  induction items generalizing next with
  | nil => exact rest []
  | cons item items ih => exact fun verdict => ih fun kept => rest _

theorem shallow_each_joined (procedure total : Value) (items : List Value) :
    (eachJoined procedure total items).Shallow := by
  induction items generalizing total with
  | nil => exact shallow_reply total
  | cons item items ih => exact ih

theorem shallow_each_flat (procedure : Value) (items : List Value)
    {next : List Value → Dialogue} (rest : ∀ results, (next results).Shallow) :
    (eachFlat procedure items next).Shallow := by
  induction items generalizing next with
  | nil => exact rest []
  | cons item items ih =>
      exact fun result => shallow_attempt (Prelude.sequence_shallow .flatmap result)
        fun found => ih fun others => rest (found ++ others)

theorem shallow_mapping (arguments : List Value) : (mapping arguments).Shallow := by
  unfold mapping
  split
  · refine shallow_attempt (Prelude.sequences_shallow .map _) fun lists => ?_
    cases lists with
    | nil => exact shallow_reply _
    | cons first others => exact shallow_each_row _ _ fun results => shallow_reply _
  · exact EvalM.shallow_throw nofun

theorem shallow_filtering (arguments : List Value) : (filtering arguments).Shallow := by
  unfold filtering
  split
  · exact shallow_attempt (Prelude.sequence_shallow .filter _) fun items =>
      shallow_each_kept _ items fun kept => shallow_reply _
  · exact shallow_attempt (shallow_error nofun) fun value => shallow_reply value

theorem shallow_reducing (arguments : List Value) : (reducing arguments).Shallow := by
  unfold reducing
  split
  · refine shallow_attempt (Prelude.sequence_shallow .reduce _) fun items => ?_
    cases items with
    | nil => exact shallow_reply
    | cons first rest => exact shallow_each_joined _ first rest
  · exact shallow_attempt (Prelude.sequence_shallow .reduce _) fun items =>
      shallow_each_joined _ _ items
  · exact shallow_attempt (shallow_error nofun) fun value => shallow_reply value

theorem shallow_flatmapping (arguments : List Value) : (flatmapping arguments).Shallow := by
  unfold flatmapping
  split
  · exact shallow_attempt (Prelude.sequence_shallow .flatmap _) fun items =>
      shallow_each_flat _ items fun results => shallow_reply _
  · exact shallow_attempt (shallow_error nofun) fun value => shallow_reply value

end Dialogue

/-- No native function finds the recursion too deep by itself. -/
theorem Native.dialogue_shallow (function : Native) (arguments : List Value) :
    (function.dialogue arguments).Shallow := by
  cases function with
  | map => exact Dialogue.shallow_mapping arguments
  | filter => exact Dialogue.shallow_filtering arguments
  | reduce => exact Dialogue.shallow_reducing arguments
  | flatmap => exact Dialogue.shallow_flatmapping arguments
  | display => exact (Prelude.displayed_shallow arguments).map
  | readFile => exact (Prelude.file_read_shallow arguments).map
  | writeFile => exact (Prelude.file_written_shallow arguments).map
  | equal | notEqual =>
      exact Prelude.pure_reply_shallow (shallow_map (Prelude.all_same_shallow _ arguments))
  | greater | greaterEqual | less | lessEqual =>
      exact Prelude.pure_reply_shallow (Prelude.ordered_shallow _ _ arguments)
  | add => exact Prelude.numeric_reply_shallow fun _ => Prelude.sum_shallow _ arguments
  | subtract => exact Prelude.numeric_reply_shallow fun _ => Prelude.difference_shallow _ arguments
  | multiply => exact Prelude.numeric_reply_shallow fun _ => Prelude.product_shallow _ arguments
  | divide => exact Prelude.numeric_reply_shallow fun _ => Prelude.quotient_shallow _ arguments
  | isNumber => exact Prelude.pure_reply_shallow (Prelude.number_test_shallow arguments)
  | negate => exact Prelude.pure_reply_shallow (Prelude.negation_shallow arguments)
  | conjunction | disjunction | list => exact EvalM.shallow_pure _
  | stringJoin => exact Prelude.pure_reply_shallow (Prelude.string_joined_shallow arguments)
  | stringSplit => exact Prelude.pure_reply_shallow (Prelude.string_split_at_shallow arguments)
  | stringUpcase | stringDowncase | stringReverse | stringTrim =>
      exact Prelude.pure_reply_shallow (Prelude.map_text_shallow _ _ _ arguments)
  | startsWith | endsWith =>
      exact Prelude.pure_reply_shallow (Prelude.test_text_shallow _ _ _ _ arguments)
  | first => exact Prelude.pure_reply_shallow (Prelude.first_element_shallow arguments)
  | rest => exact Prelude.pure_reply_shallow (Prelude.other_elements_shallow arguments)
  | nth => exact Prelude.pure_reply_shallow (Prelude.element_at_shallow arguments)
  | take => exact Prelude.pure_reply_shallow (Prelude.taken_shallow arguments)
  | drop => exact Prelude.pure_reply_shallow (Prelude.dropped_shallow arguments)
  | count => exact Prelude.pure_reply_shallow (Prelude.counted_shallow arguments)
  | probe instrument => exact Prelude.probed_shallow instrument arguments

end Lisplet
