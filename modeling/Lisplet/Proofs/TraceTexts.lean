import Lisplet.Proofs.Script
import Lisplet.Proofs.StructuredFailures
import Lisplet.Proofs.Tracing

/-!
# What trace messages begin with

A trace message is indented by two spaces for each procedure call in progress. That can
be read off the message, for no text behind the indentation begins with a space: most
begin with a word that is always the same, and the others with an expression or a name
from a source.
-/

namespace Lisplet

/-- How far a message is indented behind its mark. -/
def TraceEntry.indentation (entry : TraceEntry) : Nat :=
  ((entry.message.toList.drop (traceMark.length + 1)).takeWhile (· = ' ')).length

/-- A text that begins, and not with a space. -/
def Begins (text : String) : Prop :=
  text.toList.head?.any (· ≠ ' ') = true

instance (text : String) : Decidable (Begins text) :=
  inferInstanceAs (Decidable (_ = true))

theorem begins_iff {text : String} :
    Begins text ↔ ∃ first rest, text.toList = first :: rest ∧ first ≠ ' ' := by
  unfold Begins
  cases text.toList with
  | nil => simp
  | cons first rest => simp

theorem Begins.append {text : String} (begins : Begins text) (more : String) :
    Begins (text ++ more) := by
  obtain ⟨first, rest, letters, noSpace⟩ := begins_iff.mp begins
  refine begins_iff.mpr ⟨first, rest ++ more.toList, ?_, noSpace⟩
  rw [String.toList_append, letters, List.cons_append]

/-- Behind its mark, a message shows nothing but spaces until its text begins. -/
theorem indentation_of_begins {entry : TraceEntry} (begins : Begins entry.text) :
    entry.indentation = 2 * entry.depth := by
  obtain ⟨first, rest, text, noSpace⟩ := begins_iff.mp begins
  have letters : entry.message.toList =
      (traceMark ++ " ").toList ++ (List.replicate (2 * entry.depth) ' ' ++ first :: rest) := by
    unfold TraceEntry.message indentation
    rw [String.toList_append, String.toList_append, String.toList_ofList, List.append_assoc, text]
  have length : traceMark.length + 1 = (traceMark ++ " ").toList.length := by decide
  unfold TraceEntry.indentation
  rw [letters, length, List.drop_left, List.takeWhile_append_of_pos (by simp),
    List.takeWhile_cons_of_neg (by simpa using noSpace)]
  simp

section Texts

open Scanner

theorem begins_of_solid {text : String} (solid : Solid text) (some : text.toList ≠ []) :
    Begins text := by
  obtain ⟨first, rest, letters⟩ := List.exists_cons_of_ne_nil some
  refine begins_iff.mpr ⟨first, rest, letters, ?_⟩
  rintro rfl
  have delimits : isDelimiter ' ' = false := solid ' ' (by simp [letters])
  exact absurd delimits (by decide)

theorem begins_name {name : String} (reads : ReadsAsName name) : Begins name := by
  have isName := (reads_as_name_iff.mp reads).text
  cases letters : name.toList with
  | nil =>
      rw [letters] at isName
      exact isName.elim
  | cons first rest =>
      rw [letters] at isName
      refine begins_iff.mpr ⟨first, rest, letters, ?_⟩
      rintro rfl
      exact absurd isName.1 (by decide)

theorem begins_integer {value : Int} (positive : 0 ≤ value) : Begins (toString value) := by
  obtain ⟨size, rfl⟩ := Int.eq_ofNat_of_zero_le positive
  have text : toString (size : Int) = toString size := rfl
  rw [text]
  refine begins_of_solid (fun character member => solid_digit (digits_of_nat _ _ member)) ?_
  rw [Nat.toString_eq_repr, Nat.toList_repr]
  exact Nat.toDigits_ne_nil

theorem layout_ne_nil (decimal : Decimal) : decimal.layout.toList ≠ [] := by
  unfold Decimal.layout
  dsimp only
  split_ifs <;> simp [String.toList_append]

theorem begins_double (value : Double) : Begins value.text := by
  refine begins_of_solid (solid_double value) ?_
  unfold Double.text
  split
  · decide
  · split_ifs <;> decide
  · rw [String.toList_append]
    refine List.append_ne_nil_of_right_ne_nil _ ?_
    split_ifs
    · decide
    · exact layout_ne_nil _

theorem begins_atom {atom : Atom} {location : Option Location}
    (writable : (Expr.literal location (.atom atom)).Writable fun _ => True) :
    Returns Begins atom.describe := by
  cases atom with
  | number number =>
      cases number with
      | int value =>
          simp only [Atom.describe, Number.text?, Number.integerText?, if_pos writable.2]
          exact begins_integer writable.1
      | float value => exact begins_double value
      | nan serial => exact writable.elim
  | string content =>
      refine begins_iff.mpr
        ⟨'"', content.toList.flatMap Atom.escapeCharacter ++ ['"'], ?_, by decide⟩
      rw [Atom.stringLiteral, String.toList_ofList, List.cons_append]
  | unmatched => exact writable.elim
  | boolean value =>
      change Begins _
      cases value <;> decide
  | nil =>
      change Begins _
      decide

theorem begins_expression {expression : Expr} (writable : expression.Writable fun _ => True) :
    Returns Begins expression.describe := by
  unfold Expr.describe
  cases expression with
  | literal location value =>
      cases value with
      | list items => exact writable.elim
      | atom atom => exact begins_atom writable
  | reference location name => exact begins_name writable
  | apply | branch =>
      repeat refine returns_bind_any fun _ => ?_
      repeat apply Begins.append
      decide
  | define | procedure | lambda | quote =>
      refine returns_bind_any fun _ => ?_
      repeat apply Begins.append
      decide
  | plain value => exact writable.elim

/-- A step of an evaluation that only meets what was read from sources. -/
def TraceStep.Sourced : TraceStep → Prop
  | .visit expression _ => expression.Writable fun _ => True
  | .bound name _ => ReadsAsName name
  | _ => True

theorem TraceStep.Sourced.begins {step : TraceStep} (sourced : step.Sourced) :
    Returns Begins step.render := by
  unfold render
  cases step with
  | visit expression location =>
      refine returns_bind.mpr ((begins_expression sourced).weaken fun text begins => ?_)
      exact (begins.append _).append _
  | bound name value =>
      exact returns_bind_any fun _ => ((begins_name sourced).append _).append _
  | apply | quote | native =>
      refine returns_bind_any fun _ => ?_
      repeat apply Begins.append
      decide
  | load | define | defineProcedure | makeClosure | call =>
      change Begins _
      repeat apply Begins.append
      decide
  | consequent | alternate =>
      change Begins _
      decide

end Texts

def Machine.messages (machine : Machine) : List TraceEntry :=
  machine.events.toList.filterMap Interpreter.traceEntry?

theorem Machine.messages_push (machine : Machine) (event : Event) :
    { machine with events := machine.events.push event }.messages =
      machine.messages ++ (Interpreter.traceEntry? event).toList := by
  unfold messages
  rw [Array.toList_push, List.filterMap_append]
  cases told : Interpreter.traceEntry? event <;> simp [told]

namespace EvalM

def Silent {Result : Type} (action : EvalM Result) : Prop :=
  ∀ machine, Ensures action machine (fun _ after => after.messages = machine.messages)
    (fun _ after => after.messages = machine.messages)

theorem silent_load (scope : ScopeId) (name : String) : (loadBinding scope name).Silent := by
  intro machine
  rw [loadBinding, ensures_bind, ensures_get]
  cases machine.scopes.lookup? scope name <;> rfl

theorem silent_of_text {Result : Type} (text : Except Unwritable Result) :
    (ofText text).Silent := by
  intro machine
  rw [ensures_of_text]
  cases text <;> rfl

theorem ensures_iff_after {Result : Type} {action : EvalM Result} {machine : Machine}
    {holds : Machine → Prop} :
    Ensures action machine (fun _ after => holds after) (fun _ after => holds after) ↔
      holds (action.after machine) := by
  unfold Ensures after
  cases action machine <;> rfl

end EvalM

section Natives

/-- An evaluation compared with itself, as long as its trace stays what it is. -/
def Likeness.silent (messages : List TraceEntry) : Likeness :=
  { ScopeLikeness.same.faithful false with
    shown := fun first second =>
      second = first ∧ first.toList.filterMap Interpreter.traceEntry? = messages
    display := by
      rintro first _ ⟨rfl, told⟩ text
      refine ⟨rfl, ?_⟩
      rw [Array.toList_push, List.filterMap_append, told]
      exact List.append_nil _
    trace := fun traced => absurd traced Bool.noConfusion
    caught_up := by
      rintro - first _ ⟨rfl, -⟩ file
      rfl }

inductive Dialogue.Silent : Dialogue → Prop where
  | answer {action : EvalM Reply} (silent : action.Silent) : Silent (.answer action)
  | ask {procedure : Value} {arguments : List Value} {next : Value → Dialogue}
      (rest : ∀ value, Silent (next value)) : Silent (.ask procedure arguments next)

theorem Dialogue.silent_of_echoes {dialogue : Dialogue}
    (echoes : ∀ messages, ∃ other, (Likeness.silent messages).Echoes dialogue other) :
    dialogue.Silent := by
  induction dialogue with
  | answer action =>
      refine .answer fun machine => ?_
      obtain ⟨other, same⟩ := echoes machine.messages
      cases same with
      | @answer _ echo alike =>
          have ends := alike machine machine
            ⟨rfl, ⟨rfl, rfl⟩, rfl, rfl, fun _ => trivial, rfl, rfl, rfl, rfl⟩
          unfold Ensures
          generalize action machine = outcome at ends ⊢
          generalize echo machine = echoed at ends
          cases ends with
          | done same machines => exact machines.shown.2
          | failed machines => exact machines.shown.2
          | lost gone => exact gone.elim
  | ask procedure arguments next ih =>
      refine .ask fun value => ih value fun messages => ?_
      obtain ⟨other, same⟩ := echoes messages
      cases same with
      | ask rest => exact ⟨_, rest value⟩

theorem Native.dialogue_silent (function : Native) (arguments : List Value) :
    (function.dialogue arguments).Silent :=
  Dialogue.silent_of_echoes fun _ => ⟨_, Likeness.dialogue_echoes function arguments⟩

end Natives

/-- All procedures come from sources, and all messages begin with something else than a
space. -/
structure Machine.Legible (machine : Machine) : Prop where
  sourced : machine.Sourced
  begin : ∀ entry ∈ machine.messages, Begins entry.text

namespace EvalM

/-- The action keeps the machine legible, and ends with a value that has a property if it
ends with one. -/
def Legible {Result : Type} (property : Result → Prop) (action : EvalM Result) : Prop :=
  ∀ machine : Machine, machine.Legible → Ensures action machine
    (fun value after => after.Legible ∧ property value) (fun _ after => after.Legible)

variable {Result Other : Type} {property : Result → Prop} {final : Other → Prop}
  {action : EvalM Result}

theorem Settles.legible {ends : Failure → Prop} (settles : action.Settles property ends)
    (silent : action.Silent) : action.Legible property := by
  intro machine legible
  have kept := settles machine legible.sourced
  have told := silent machine
  have begins (after : Machine) (same : after.messages = machine.messages) :
      ∀ entry ∈ after.messages, Begins entry.text := by
    rw [same]
    exact legible.begin
  unfold Ensures at kept told ⊢
  cases outcome : action machine with
  | ok value after =>
      rw [outcome] at kept told
      exact ⟨⟨kept.1, begins after told⟩, kept.2⟩
  | error failure after =>
      rw [outcome] at kept told
      exact ⟨kept.1, begins after told⟩

theorem Legible.after {machine : Machine} (legible : action.Legible property)
    (before : machine.Legible) : (action.after machine).Legible :=
  ensures_iff_after.mp
    ((legible machine before).weaken (fun _ _ kept => kept.1) fun _ _ kept => kept)

theorem legible_pure {value : Result} (holds : property value) :
    (pure value : EvalM Result).Legible property :=
  fun _ legible => ⟨legible, holds⟩

theorem legible_throw (failure : Failure) : (throw failure : EvalM Result).Legible property :=
  fun _ legible => legible

theorem Legible.bind {next : Result → EvalM Other} (first : action.Legible property)
    (rest : ∀ value, property value → (next value).Legible final) :
    (action >>= next).Legible final := by
  intro machine legible
  rw [ensures_bind]
  refine (first machine legible).weaken ?_ fun _ _ failed => failed
  exact fun value middle kept => rest value kept.2 middle kept.1

theorem legible_announce (tracing : Bool) {step : Machine → TraceStep}
    (sourced : ∀ machine, (step machine).Sourced) :
    (announce tracing step).Legible fun _ => True := by
  intro machine legible
  unfold announce
  split_ifs
  · rw [ensures_bind, ensures_get, ensures_bind, ensures_of_text]
    have begins := (sourced machine).begins
    cases rendered : (step machine).render with
    | error reason => exact legible
    | ok text =>
        rw [rendered] at begins
        refine ⟨⟨legible.sourced, ?_⟩, trivial⟩
        intro entry member
        rw [Machine.messages_push] at member
        rcases List.mem_append.mp member with earlier | new
        · exact legible.begin entry earlier
        · cases List.mem_singleton.mp new
          exact begins
  · exact ⟨legible, trivial⟩

theorem Legible.announced {tracing : Bool} {step : Machine → TraceStep} {next : Unit → EvalM Other}
    (sourced : ∀ machine, (step machine).Sourced) (rest : (next ()).Legible final) :
    (announce tracing step >>= next).Legible final :=
  (legible_announce tracing sourced).bind fun _ _ => rest

theorem legible_load (scope : ScopeId) (name : String) :
    (loadBinding scope name).Legible (Value.Within Closure.Sourced) :=
  (settles_load scope name).legible (silent_load scope name)

theorem legible_define (scope : ScopeId) (name : String) {value : Value}
    (within : value.Within Closure.Sourced) :
    (define scope name value).Legible fun _ => True := by
  have settles : (define scope name value).Settles (fun _ => True) fun _ => True :=
    settles_define scope name within
  exact settles.legible fun _ => rfl

theorem legible_make_scope (parent : ScopeId) (location : String)
    {added : List (String × Value)} (within : ∀ pair ∈ added, pair.2.Within Closure.Sourced) :
    (makeScope parent location added).Legible fun _ => True := by
  have settles : (makeScope parent location added).Settles (fun _ => True) fun _ => True :=
    settles_make_scope parent location within
  exact settles.legible fun _ => rfl

theorem Legible.bracket {enter leave : Machine → Machine}
    (entered : ∀ machine : Machine, machine.Legible → (enter machine).Legible)
    (left : ∀ machine : Machine, machine.Legible → (leave machine).Legible)
    (legible : action.Legible property) : (EvalM.bracket enter leave action).Legible property := by
  intro machine before
  rw [ensures_bracket]
  exact (legible (enter machine) (entered machine before)).weaken
    (fun _ after kept => ⟨left after kept.1, kept.2⟩) (fun _ after kept => left after kept)

theorem Legible.inside_call (legible : action.Legible property) :
    (insideCall action).Legible property :=
  .bracket (fun _ before => ⟨before.sourced, before.begin⟩)
    (fun _ after => ⟨after.sourced, after.begin⟩) legible

theorem Legible.inside_native (site : ScopeId) (legible : action.Legible property) :
    (insideNative site action).Legible property :=
  .bracket (fun _ before => ⟨before.sourced, before.begin⟩)
    (fun _ after => ⟨after.sourced, after.begin⟩) legible

theorem Legible.adapt (change : Failure → Failure) (legible : action.Legible property) :
    EvalM.Legible property (action.adaptExcept change) := by
  intro machine before
  rw [ensures_adapt]
  exact legible machine before

end EvalM

inductive Script.Sourced : Script → Prop where
  | done {value : Value} (within : value.Within Closure.Sourced) : Sourced (.done value)
  | fault (cause : Fault) : Sourced (.fault cause)
  | announce {step : Machine → TraceStep} {next : Script}
      (sourced : ∀ machine, (step machine).Sourced) (rest : Sourced next) :
      Sourced (.announce step next)
  | load {scope : ScopeId} {name : String} {next : Value → Script}
      (rest : ∀ value, value.Within Closure.Sourced → Sourced (next value)) :
      Sourced (.load scope name next)
  | define {scope : ScopeId} {name : String} {value : Value} {next : Script}
      (within : value.Within Closure.Sourced) (rest : Sourced next) :
      Sourced (.define scope name value next)
  | apply {callee : Value} {arguments : List Value} {site : ScopeId} {next : Value → Script}
      (called : callee.Within Closure.Sourced)
      (given : ∀ argument ∈ arguments, argument.Within Closure.Sourced)
      (rest : ∀ value, value.Within Closure.Sourced → Sourced (next value)) :
      Sourced (.apply callee arguments site next)

mutual

theorem script_sourced (scope : ScopeId) (expression : Expr)
    (wellFormed : expression.WellFormed fun _ => True) {next : Value → Script}
    (rest : ∀ value, value.Within Closure.Sourced → (next value).Sourced) :
    (expression.script scope next).Sourced := by
  have writable := wellFormed expression expression.mem_nodes
  unfold Expr.script
  refine .announce (fun _ => writable) ?_
  cases expression with
  | literal location value => exact rest _ (Value.within_of_datum _ value)
  | reference location name => exact .announce (fun _ => trivial) (.load rest)
  | apply location callee arguments =>
      have inside (node : Expr) (member : node ∈ callee.nodes ++ Expr.nodesOf arguments) :=
        wellFormed node (List.mem_cons_of_mem _ member)
      refine .announce (fun _ => trivial) ?_
      refine script_sourced scope callee
        (fun node member => inside node (List.mem_append_left _ member)) fun _ called => ?_
      exact script_each_sourced scope arguments
        (fun node member => inside node (List.mem_append_right _ member))
        fun _ given => .apply called given rest
  | branch location test consequent alternate =>
      have inside (node : Expr)
          (member : node ∈ test.nodes ++ consequent.nodes ++ alternate.nodes) :=
        wellFormed node (List.mem_cons_of_mem _ member)
      refine script_sourced scope test (fun node member =>
        inside node (List.mem_append_left _ (List.mem_append_left _ member))) fun verdict _ => ?_
      split_ifs
      · exact .announce (fun _ => trivial) (script_sourced scope consequent (fun node member =>
          inside node (List.mem_append_left _ (List.mem_append_right _ member))) rest)
      · exact .announce (fun _ => trivial) (script_sourced scope alternate (fun node member =>
          inside node (List.mem_append_right _ member)) rest)
  | define location name value =>
      refine .announce (fun _ => trivial) (script_sourced scope value (fun node member =>
        wellFormed node (List.mem_cons_of_mem _ member)) fun result within => ?_)
      exact .announce (fun _ => writable) (.define within (rest result within))
  | procedure location name parameters body =>
      have within : (Value.closure ⟨scope, name, parameters, body⟩).Within Closure.Sourced :=
        Value.within_closure.mpr fun node member =>
          wellFormed node (List.mem_cons_of_mem _ member)
      exact .announce (fun _ => trivial) (.define within (rest _ within))
  | lambda location parameters body =>
      refine .announce (fun _ => trivial) (rest _ (Value.within_closure.mpr ?_))
      exact fun node member => wellFormed node (List.mem_cons_of_mem _ member)
  | quote location form =>
      exact .announce (fun _ => trivial) (rest _ (quoted_value_within _ form))
  | plain value => exact .fault _

theorem script_each_sourced (scope : ScopeId) (expressions : List Expr)
    (wellFormed : ∀ node ∈ Expr.nodesOf expressions, node.Writable fun _ => True)
    {next : List Value → Script}
    (rest : ∀ values, (∀ value ∈ values, value.Within Closure.Sourced) → (next values).Sourced) :
    (scriptEach scope expressions next).Sourced := by
  cases expressions with
  | nil => exact rest [] fun _ member => by cases member
  | cons expression others =>
      unfold scriptEach
      refine script_sourced scope expression (fun node member =>
        wellFormed node (List.mem_append_left _ member)) fun value within => ?_
      exact script_each_sourced scope others
        (fun node member => wellFormed node (List.mem_append_right _ member))
        fun values given => rest _ (List.forall_mem_cons.mpr ⟨within, given⟩)

end

theorem script_sequence_sourced (scope : ScopeId) (expressions : List Expr)
    (wellFormed : ∀ node ∈ Expr.nodesOf expressions, node.Writable fun _ => True) {result : Value}
    (within : result.Within Closure.Sourced) :
    (scriptSequence scope result expressions).Sourced := by
  induction expressions generalizing result with
  | nil => exact .done within
  | cons expression others ih =>
      refine script_sourced scope expression (fun node member =>
        wellFormed node (List.mem_append_left _ member)) fun value kept => ?_
      exact ih (fun node member => wellFormed node (List.mem_append_right _ member)) kept

/-- An applier that keeps machines legible, as long as all procedures come from sources. -/
def Applier.Legible (apply : Applier) : Prop :=
  ∀ callee arguments site, callee.Within Closure.Sourced →
    (∀ argument ∈ arguments, argument.Within Closure.Sourced) →
      (apply callee arguments site).Legible (Value.Within Closure.Sourced)

section Evaluation

variable (tracing : Bool) {apply : Applier}

theorem Script.Sourced.run_legible {script : Script} (sourced : script.Sourced)
    (applied : apply.Legible) :
    (script.run tracing apply).Legible (Value.Within Closure.Sourced) := by
  induction sourced with
  | done within => exact EvalM.legible_pure within
  | fault cause => exact EvalM.legible_throw (.host cause)
  | announce sourced _ ih => exact .announced sourced ih
  | load _ ih => exact (EvalM.legible_load _ _).bind ih
  | define within _ ih => exact (EvalM.legible_define _ _ within).bind fun _ _ => ih
  | apply called given _ ih => exact (applied _ _ _ called given).bind ih

theorem eval_sequence_legible (applied : apply.Legible) (scope : ScopeId) {program : List Expr}
    (wellFormed : ∀ node ∈ Expr.nodesOf program, node.Writable fun _ => True) :
    (evalSequence tracing apply scope .nil program).Legible (Value.Within Closure.Sourced) := by
  rw [eval_sequence_eq_run]
  exact (script_sequence_sourced scope program wellFormed
    (Value.within_atom _ _)).run_legible tracing applied

theorem call_closure_legible (applied : apply.Legible) {closure : Closure}
    (sourced : closure.Sourced) {arguments : List Value}
    (within : ∀ argument ∈ arguments, argument.Within Closure.Sourced) (site : ScopeId) :
    (callClosure tracing apply closure arguments site).Legible
      (Value.Within Closure.Sourced) := by
  unfold callClosure
  refine .announced (fun _ => trivial) ?_
  split_ifs
  · exact EvalM.legible_throw _
  · refine (EvalM.legible_make_scope closure.scope closure.name ?_).bind fun scope _ => ?_
    · exact fun pair member => within _ (List.of_mem_zip member).2
    · exact (eval_sequence_legible tracing applied scope sourced).inside_call

theorem call_back_legible (applied : apply.Legible) {procedure : Value} {arguments : List Value}
    (given : procedure.Within Closure.Sourced)
    (passed : ∀ argument ∈ arguments, argument.Within Closure.Sourced) :
    (callBack apply procedure arguments).Legible (Value.Within Closure.Sourced) := by
  intro machine legible
  rw [callBack, ensures_bind, ensures_get]
  cases machine.sites with
  | nil => exact legible
  | cons site outer => exact applied procedure arguments site given passed machine legible

theorem Dialogue.Tame.run_legible {dialogue : Dialogue} (tame : dialogue.Tame Closure.Sourced)
    (silent : dialogue.Silent) (applied : apply.Legible) :
    (dialogue.run (callBack apply)).Legible (Reply.Within Closure.Sourced) := by
  induction tame with
  | answer quiet =>
      cases silent with
      | answer silent => exact (EvalM.settles_of_quiet quiet).legible silent
  | ask given passed _ ih =>
      cases silent with
      | ask rest =>
          refine (call_back_legible applied given passed).bind fun value within => ?_
          exact ih value within (rest value)

theorem call_native_legible (applied : apply.Legible) (function : Native) {arguments : List Value}
    (within : ∀ argument ∈ arguments, argument.Within Closure.Sourced) (site : ScopeId) :
    (callNative tracing apply function arguments site).Legible (Value.Within Closure.Sourced) := by
  have held := (function.dialogue_tame within).run_legible (function.dialogue_silent arguments)
    applied
  rw [← Native.invoke_eq_run] at held
  unfold callNative
  refine .announced (fun _ => trivial) ?_
  refine ((held.inside_native site).adapt (blameNative site)).bind fun reply replied => ?_
  cases reply with
  | value answer => exact EvalM.legible_pure replied
  | «foreign» kind => exact EvalM.legible_throw _

theorem apply_with_legible (applied : apply.Legible) : (applyWith tracing apply).Legible := by
  intro callee arguments site sourced within
  cases callee with
  | closure closure =>
      exact call_closure_legible tracing applied (Value.within_closure.mp sourced) within site
  | native function => exact call_native_legible tracing applied function within site
  | atom | list | form =>
      intro machine legible
      refine (ensures_bind.mpr ?_)
      rw [EvalM.ensures_of_text]
      split <;> exact legible

theorem apply_within_legible (limit : Nat) : (applyWithin tracing limit).Legible := by
  induction limit with
  | zero => exact fun _ _ _ _ _ => EvalM.legible_throw _
  | succ limit ih => exact apply_with_legible tracing ih

end Evaluation

/-- Whatever comes of a run, it leaves the machine legible. -/
theorem Interpreter.run_legible {interpreter : Interpreter} (legible : interpreter.machine.Legible)
    (source : String) : (interpreter.run source).2.machine.Legible := by
  cases parsed : parseSource source with
  | error error =>
      rw [interpreter.run_of_unread parsed]
      exact legible
  | ok program =>
      rw [interpreter.run_of_parsed parsed, evaluate, perform_machine]
      exact (eval_sequence_legible _ (apply_within_legible _ recursionLimit) globalScope
        (parse_source_sourced parsed)).after legible

end Lisplet
