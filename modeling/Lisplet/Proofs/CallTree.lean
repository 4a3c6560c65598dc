import Lisplet.Proofs.NestedMessages

/-!
# The call tree in the trace

The calls of a session can be read off its trace. Each call of a procedure has a message,
and each message of a call belongs to one. The block of deeper messages behind it is what
was told while the call was in progress, no more and no less: whatever is told once the
call is over begins no deeper than the message of the call.
-/

namespace Lisplet

theorem head_append {Entry : Type} {holds : Entry → Prop} {first second : List Entry}
    (before : ∀ entry ∈ first.head?, holds entry) (after : ∀ entry ∈ second.head?, holds entry) :
    ∀ entry ∈ (first ++ second).head?, holds entry := by
  cases first with
  | nil => exact after
  | cons entry rest => exact before

/-- From one machine to another more was told, beginning no deeper than at some depth. -/
def Machine.Surfaces (depth : Nat) (before after : Machine) : Prop :=
  ∃ rest, after.messages = before.messages ++ rest ∧ ∀ entry ∈ rest.head?, entry.depth ≤ depth

namespace Machine.Surfaces

variable {depth : Nat} {first second third : Machine}

theorem of_same (same : second.messages = first.messages) : first.Surfaces depth second :=
  ⟨[], same.trans (List.append_nil _).symm, fun _ member => by cases member⟩

theorem of_continues (continues : first.Continues second) (level : first.depth ≤ depth) :
    first.Surfaces depth second := by
  obtain ⟨-, log, told, nested⟩ := continues
  refine ⟨log, told, fun entry member => ?_⟩
  rw [nested.head_depth entry member]
  exact level

theorem trans (before : first.Surfaces depth second) (after : second.Surfaces depth third) :
    first.Surfaces depth third := by
  obtain ⟨rest, told, level⟩ := before
  obtain ⟨more, toldMore, levelMore⟩ := after
  exact ⟨rest ++ more, by rw [toldMore, told, List.append_assoc], head_append level levelMore⟩

theorem mono (surfaces : first.Surfaces depth second) {higher : Nat} (above : depth ≤ higher) :
    first.Surfaces higher second := by
  obtain ⟨rest, told, level⟩ := surfaces
  exact ⟨rest, told, fun entry member => Nat.le_trans (level entry member) above⟩

end Machine.Surfaces

def Application.left (apply : Applier) (application : Application) : Machine :=
  (apply application.callee application.arguments application.site).after application.machine

theorem EvalM.Nested.surfaces_bind {Result Other : Type} {action : EvalM Result}
    {next : Result → EvalM Other} (first : action.Nested) (second : ∀ value, (next value).Nested)
    (machine : Machine) :
    (action.after machine).Surfaces machine.depth ((action >>= next).after machine) := by
  cases outcome : action machine with
  | ok value middle =>
      rw [after_of_ok outcome, after_bind_ok outcome]
      exact .of_continues ((second value).after middle) ((first machine).of_ok outcome).depth.le
  | error failure middle =>
      rw [after_of_error outcome, after_of_error (bind_error outcome next)]
      exact .of_same rfl

section Nesting

variable {apply : Applier} {machine : Machine} {inner : Application}

/-- An evaluation makes its applications at its own depth, and what it tells once one of
them is over begins there too. -/
theorem Script.Asks.surfaces (applied : apply.Nested) {script : Script}
    (asks : script.Asks true apply machine inner) :
    inner.machine.depth = machine.depth ∧
      (inner.left apply).Surfaces machine.depth ((script.run true apply).after machine) := by
  induction asks with
  | @here callee arguments site next machine =>
      exact ⟨rfl, (applied callee arguments site).surfaces_bind
        (fun value => Script.run_nested applied (next value)) machine⟩
  | @applied callee value arguments site next machine after application result rest ih =>
      have same := ((applied callee arguments site machine).of_ok result).depth
      rw [Script.run, EvalM.after_bind_ok result]
      rwa [same] at ih
  | @announced step next machine after application told rest ih =>
      have same := ((EvalM.nested_announce true step machine).of_ok told).depth
      rw [Script.run, EvalM.after_bind_ok told]
      rwa [same] at ih
  | @loaded scope name value next machine after application found rest ih =>
      have same := ((EvalM.nested_load scope name machine).of_ok found).depth
      rw [Script.run, EvalM.after_bind_ok found]
      rwa [same] at ih
  | @defined scope name value next machine after application bound rest ih =>
      have same := ((EvalM.nested_define scope name value machine).of_ok bound).depth
      rw [Script.run, EvalM.after_bind_ok bound]
      rwa [same] at ih

theorem Dialogue.Asks.surfaces (applied : apply.Nested) {dialogue : Dialogue}
    (silent : dialogue.Silent) (tame : dialogue.Tame fun _ => True)
    (asks : dialogue.Asks apply machine inner) :
    inner.machine.depth = machine.depth ∧
      (inner.left apply).Surfaces machine.depth
        ((dialogue.run (callBack apply)).after machine) := by
  induction asks with
  | @here procedure arguments next machine site outer inside =>
      cases silent with
      | ask silent =>
          cases tame with
          | ask _ _ tame =>
              have called : (callBack apply procedure arguments).after machine =
                  (apply procedure arguments site).after machine :=
                EvalM.after_of_eq (call_back_of_inside inside procedure arguments)
              have ended := (call_back_nested applied procedure arguments).surfaces_bind
                (fun value => (silent value).run_nested (tame value value.within_true) applied)
                machine
              rw [called] at ended
              exact ⟨rfl, ended⟩
  | @called procedure value arguments next machine after application result rest ih =>
      cases silent with
      | ask silent =>
          cases tame with
          | ask _ _ tame =>
              have ended := (call_back_nested applied procedure arguments machine).of_ok result
              have later := ih (silent value) (tame value value.within_true)
              rw [Dialogue.run, EvalM.after_bind_ok result]
              rwa [ended.depth] at later

/-- An application that makes another is not deeper than that, and what it tells once the
other is over begins no deeper than that was. -/
theorem Application.Makes.surfaces (applied : apply.Nested) {outer : Application}
    (makes : outer.Makes true apply inner) :
    outer.machine.depth ≤ inner.machine.depth ∧
      (inner.left apply).Surfaces inner.machine.depth (outer.left (applyWith true apply)) := by
  cases makes with
  | @body closure arguments site machine begun inner told fits asks =>
      obtain ⟨level, ended⟩ := asks.surfaces applied
      have same := ((EvalM.nested_announce true _ machine).of_ok told).depth
      have deeper : inner.machine.depth = machine.depth + 1 := by
        rw [level, ← same]
        rfl
      refine ⟨by rw [deeper]; exact Nat.le_succ _, ?_⟩
      rw [← level] at ended
      exact ended.trans (.of_same (call_closure_messages told fits site))
  | @callback function arguments site machine begun inner told asks =>
      obtain ⟨level, ended⟩ := asks.surfaces applied (function.dialogue_silent arguments)
        (function.dialogue_tame_true arguments)
      have same := ((EvalM.nested_announce true _ machine).of_ok told).depth
      refine ⟨(level.trans same).ge, ?_⟩
      rw [← level] at ended
      exact ended.trans (.of_same (call_native_messages told site))

theorem Application.Nests.surfaces {limit depth : Nat} {outer inner : Application}
    (nests : outer.Nests true limit depth inner) :
    outer.machine.depth ≤ inner.machine.depth ∧
      (inner.left (applyWithin true depth)).Surfaces inner.machine.depth
        (outer.left (applyWithin true limit)) := by
  induction nests with
  | here => exact ⟨Nat.le_refl _, .of_same rfl⟩
  | @inside limit depth outer middle inner makes nests ih =>
      obtain ⟨level, ended⟩ := makes.surfaces (apply_within_nested limit)
      exact ⟨Nat.le_trans level ih.1, ih.2.trans (ended.mono ih.1)⟩

end Nesting

theorem Interpreter.Comes.surfaces {interpreter : Interpreter} {source : String}
    {program : List Expr} {depth : Nat} {inner : Application}
    (traced : interpreter.options.traceExecution = true)
    (parsed : parseSource source = .ok program) (comes : interpreter.Comes program depth inner) :
    (inner.left (applyWithin true depth)).Surfaces inner.machine.depth
      (interpreter.run source).2.machine := by
  obtain ⟨outer, asks, nests⟩ := comes
  have applier : interpreter.applier = applyWithin true recursionLimit := by
    unfold applier
    rw [traced]
  rw [traced, applier] at asks
  rw [traced] at nests
  obtain ⟨level, ended⟩ := asks.surfaces (apply_within_nested recursionLimit)
  obtain ⟨deeper, inside⟩ := nests.surfaces
  rw [← level] at ended
  rw [interpreter.run_of_parsed parsed, evaluate, perform_machine, applier, traced,
    eval_sequence_eq_run]
  exact inside.trans (ended.mono deeper)

theorem append_split {Entry : Type} {first second earlier later : List Entry} {entry : Entry}
    (split : first ++ second = earlier ++ entry :: later) :
    (∃ between, first = earlier ++ entry :: between) ∨
      ∃ between, earlier = first ++ between ∧ second = between ++ entry :: later := by
  rcases List.append_eq_append_iff.mp split with ⟨between, rfl, rest⟩ | ⟨between, rfl, rest⟩
  · exact .inr ⟨between, rfl, rest⟩
  · cases between with
    | nil => exact .inr ⟨[], by rw [List.append_nil, List.append_nil], rest.symm⟩
    | cons here between =>
        obtain ⟨rfl, -⟩ := List.cons.inj rest
        exact .inl ⟨between, rfl⟩

/-- Every message of a call that was told from one machine to another belongs to one of
some calls, which come with the number of applications that may nest in them. -/
def Machine.Credits (calls : Nat → Application → Prop) (before after : Machine) : Prop :=
  ∃ log, after.messages = before.messages ++ log ∧
    ∀ earlier entry later closure, log = earlier ++ entry :: later → entry.step = .call closure →
      ∃ limit call, calls (limit + 1) call ∧ call.callee = .closure closure ∧
        call.machine.messages = before.messages ++ earlier

namespace Machine.Credits

variable {calls fewer : Nat → Application → Prop} {first second third : Machine}

theorem of_same (same : second.messages = first.messages) : first.Credits calls second := by
  refine ⟨[], same.trans (List.append_nil _).symm, fun earlier entry later closure split => ?_⟩
  exact absurd split.symm (List.append_ne_nil_of_right_ne_nil _ (List.cons_ne_nil _ _))

theorem of_single {entry : TraceEntry} (told : second.messages = first.messages ++ [entry])
    (credited : ∀ closure, entry.step = .call closure →
      ∃ limit call, calls (limit + 1) call ∧ call.callee = .closure closure ∧
        call.machine.messages = first.messages) : first.Credits calls second := by
  refine ⟨[entry], told, fun earlier found later closure split calling => ?_⟩
  cases earlier with
  | nil =>
      obtain ⟨rfl, -⟩ := List.cons.inj split
      rw [List.append_nil]
      exact credited closure calling
  | cons one others =>
      have none : others ++ found :: later = [] := (List.cons.inj split).2.symm
      exact absurd none (List.append_ne_nil_of_right_ne_nil _ (List.cons_ne_nil _ _))

theorem mono (credits : first.Credits fewer second)
    (among : ∀ limit call, fewer limit call → calls limit call) : first.Credits calls second := by
  obtain ⟨log, told, credited⟩ := credits
  refine ⟨log, told, fun earlier entry later closure split calling => ?_⟩
  obtain ⟨limit, call, made, belongs⟩ := credited earlier entry later closure split calling
  exact ⟨limit, call, among _ call made, belongs⟩

theorem trans (before : first.Credits calls second) (after : second.Credits calls third) :
    first.Credits calls third := by
  obtain ⟨log, told, credited⟩ := before
  obtain ⟨more, toldMore, creditedMore⟩ := after
  refine ⟨log ++ more, by rw [toldMore, told, List.append_assoc], ?_⟩
  intro earlier entry later closure split calling
  rcases append_split split with ⟨between, here⟩ | ⟨between, rfl, there⟩
  · exact credited earlier entry between closure here calling
  · obtain ⟨limit, call, made, callee, place⟩ :=
      creditedMore between entry later closure there calling
    exact ⟨limit, call, made, callee, by rw [place, told, List.append_assoc]⟩

end Machine.Credits

/-- No step that the script announces is a call. -/
def Script.Uncalling : Script → Prop
  | .done _ => True
  | .fault _ => True
  | .announce step next => (∀ machine closure, step machine ≠ .call closure) ∧ next.Uncalling
  | .load _ _ next => ∀ value, (next value).Uncalling
  | .define _ _ _ next => next.Uncalling
  | .apply _ _ _ next => ∀ value, (next value).Uncalling

mutual

theorem script_uncalling (scope : ScopeId) (expression : Expr) {next : Value → Script}
    (rest : ∀ value, (next value).Uncalling) : (expression.script scope next).Uncalling := by
  unfold Expr.script
  refine ⟨nofun, ?_⟩
  cases expression with
  | literal => exact rest _
  | reference => exact ⟨nofun, rest⟩
  | apply location callee arguments =>
      exact ⟨nofun, script_uncalling scope callee fun _ =>
        script_each_uncalling scope arguments fun _ => rest⟩
  | branch location test consequent alternate =>
      refine script_uncalling scope test fun verdict => ?_
      split_ifs
      · exact ⟨nofun, script_uncalling scope consequent rest⟩
      · exact ⟨nofun, script_uncalling scope alternate rest⟩
  | define location name value =>
      exact ⟨nofun, script_uncalling scope value fun _ => ⟨nofun, rest _⟩⟩
  | procedure => exact ⟨nofun, rest _⟩
  | lambda => exact ⟨nofun, rest _⟩
  | quote => exact ⟨nofun, rest _⟩
  | plain => trivial

theorem script_each_uncalling (scope : ScopeId) (expressions : List Expr)
    {next : List Value → Script} (rest : ∀ values, (next values).Uncalling) :
    (scriptEach scope expressions next).Uncalling := by
  cases expressions with
  | nil => exact rest []
  | cons expression others =>
      unfold scriptEach
      exact script_uncalling scope expression fun _ =>
        script_each_uncalling scope others fun _ => rest _

end

theorem script_sequence_uncalling (scope : ScopeId) (result : Value) (expressions : List Expr) :
    (scriptSequence scope result expressions).Uncalling := by
  induction expressions generalizing result with
  | nil => trivial
  | cons expression others ih => exact script_uncalling scope expression ih

namespace EvalM

variable {calls : Nat → Application → Prop} {machine : Machine}

theorem Silent.credits {Result : Type} {action : EvalM Result} (silent : action.Silent) :
    machine.Credits calls (action.after machine) :=
  .of_same (ensures_iff_after.mp (silent machine))

theorem credits_announce {step : Machine → TraceStep}
    (uncalling : ∀ machine closure, step machine ≠ .call closure) :
    machine.Credits calls ((announce true step).after machine) := by
  refine ensures_iff_after.mp ((ensures_announce true step machine).weaken ?_ ?_)
  · rintro - after (rfl | ⟨text, rfl⟩)
    · exact .of_same rfl
    · exact .of_single (machine.messages_push _) fun closure calling =>
        absurd calling (uncalling machine closure)
  · rintro failure after ⟨rfl, -⟩
    exact .of_same rfl

theorem credits_bind {Result Other : Type} {action : EvalM Result} {next : Result → EvalM Other}
    (first : machine.Credits calls (action.after machine))
    (second : ∀ value middle, action machine = .ok value middle →
      middle.Credits calls ((next value).after middle)) :
    machine.Credits calls ((action >>= next).after machine) := by
  cases outcome : action machine with
  | ok value middle =>
      rw [after_of_ok outcome] at first
      rw [after_bind_ok outcome]
      exact first.trans (second value middle outcome)
  | error failure middle =>
      rw [after_of_error outcome] at first
      rw [after_of_error (bind_error outcome next)]
      exact first

end EvalM

/-- Calls that are made in an application by this applier nest in it. -/
def Applier.Credits (limit : Nat) (apply : Applier) : Prop :=
  ∀ application : Application,
    application.machine.Credits (application.Nests true limit) (application.left apply)

section Crediting

variable {apply : Applier} {limit : Nat}

theorem Script.run_credits (applied : apply.Credits limit) {script : Script}
    (uncalling : script.Uncalling) (machine : Machine) :
    machine.Credits (fun depth call => ∃ outer, script.Asks true apply machine outer ∧
      outer.Nests true limit depth call) ((script.run true apply).after machine) := by
  induction script generalizing machine with
  | done value => exact .of_same rfl
  | fault cause => exact .of_same rfl
  | announce step next ih =>
      refine EvalM.credits_bind (EvalM.credits_announce uncalling.1) fun _ middle told => ?_
      refine (ih uncalling.2 middle).mono ?_
      rintro depth call ⟨outer, asks, nests⟩
      exact ⟨outer, .announced told asks, nests⟩
  | load scope name next ih =>
      refine EvalM.credits_bind (EvalM.silent_load scope name).credits fun value middle found => ?_
      refine (ih value (uncalling value) middle).mono ?_
      rintro depth call ⟨outer, asks, nests⟩
      exact ⟨outer, .loaded found asks, nests⟩
  | define scope name value next ih =>
      refine EvalM.credits_bind (.of_same rfl) fun _ middle bound => ?_
      refine (ih uncalling middle).mono ?_
      rintro depth call ⟨outer, asks, nests⟩
      exact ⟨outer, .defined bound asks, nests⟩
  | apply callee arguments site next ih =>
      refine EvalM.credits_bind ((applied ⟨callee, arguments, site, machine⟩).mono
        fun depth call nests => ⟨_, .here, nests⟩) fun value middle result => ?_
      refine (ih value (uncalling value) middle).mono ?_
      rintro depth call ⟨outer, asks, nests⟩
      exact ⟨outer, .applied result asks, nests⟩

theorem Dialogue.Silent.run_credits (applied : apply.Credits limit) {dialogue : Dialogue}
    (silent : dialogue.Silent) (machine : Machine) :
    machine.Credits (fun depth call => ∃ outer, dialogue.Asks apply machine outer ∧
      outer.Nests true limit depth call) ((dialogue.run (callBack apply)).after machine) := by
  induction silent generalizing machine with
  | answer silent => exact silent.credits
  | @ask procedure arguments next _ ih =>
      refine EvalM.credits_bind ?_ fun value middle result => (ih value middle).mono ?_
      · cases inside : machine.sites with
        | nil =>
            rw [EvalM.after_of_error (call_back_of_idle inside procedure arguments)]
            exact .of_same rfl
        | cons site outer =>
            rw [EvalM.after_of_eq (call_back_of_inside inside procedure arguments)]
            exact (applied ⟨procedure, arguments, site, machine⟩).mono
              fun depth call nests => ⟨_, .here inside, nests⟩
      · rintro depth call ⟨outer, asks, nests⟩
        exact ⟨outer, .called result asks, nests⟩

/-- A call of a procedure has its own message, and the calls that its body makes nest in
it. -/
theorem call_closure_credits (applied : (applyWithin true limit).Credits limit) (closure : Closure)
    (arguments : List Value) (site : ScopeId) (machine : Machine) :
    let application : Application := ⟨.closure closure, arguments, site, machine⟩
    machine.Credits (application.Nests true (limit + 1))
      (application.left (applyWithin true (limit + 1))) := by
  intro application
  have told := announce_call closure machine
  have itself : machine.Credits (application.Nests true (limit + 1))
      (machine.calling closure) := by
    refine .of_single (machine.messages_calling closure) ?_
    rintro _ ⟨⟩
    exact ⟨limit, application, .here, rfl, rfl⟩
  refine itself.trans ?_
  change (machine.calling closure).Credits _
    ((callClosure true (applyWithin true limit) closure arguments site).after machine)
  by_cases fits : arguments.length = closure.arity
  · have body := Script.run_credits applied
      (script_sequence_uncalling (machine.calling closure).scopes.size .nil closure.body)
      ((machine.calling closure).inScope closure arguments).inCall
    refine Machine.Credits.trans (body.mono ?_) (.of_same (call_closure_messages told fits site))
    rintro depth call ⟨outer, asks, nests⟩
    exact .inside (.body told fits asks) nests
  · rw [call_closure_of_unfit fits]
    exact .of_same rfl

theorem call_native_credits (applied : (applyWithin true limit).Credits limit) (function : Native)
    (arguments : List Value) (site : ScopeId) (machine : Machine) :
    let application : Application := ⟨.native function, arguments, site, machine⟩
    machine.Credits (application.Nests true (limit + 1))
      (application.left (applyWithin true (limit + 1))) := by
  intro application
  change machine.Credits _ ((callNative true (applyWithin true limit) function arguments site).after
    machine)
  have announced : machine.Credits (application.Nests true (limit + 1))
      ((EvalM.announce true fun _ => .native function arguments).after machine) :=
    EvalM.credits_announce nofun
  cases told : EvalM.announce true (fun _ => .native function arguments) machine with
  | error failure middle =>
      rw [EvalM.after_of_error told] at announced
      rw [callNative, EvalM.after_of_error (EvalM.bind_error told _)]
      exact announced
  | ok value begun =>
      rw [EvalM.after_of_ok told] at announced
      have held := (function.dialogue_silent arguments).run_credits applied (begun.inNative site)
      refine announced.trans (Machine.Credits.trans (held.mono ?_)
        (.of_same (call_native_messages told site)))
      rintro depth call ⟨outer, asks, nests⟩
      exact .inside (.callback told asks) nests

theorem apply_within_credits (limit : Nat) : (applyWithin true limit).Credits limit := by
  induction limit with
  | zero => exact fun application => .of_same rfl
  | succ limit ih =>
      rintro ⟨callee, arguments, site, machine⟩
      cases callee with
      | closure closure => exact call_closure_credits ih closure arguments site machine
      | native function => exact call_native_credits ih function arguments site machine
      | atom | list | form =>
          exact EvalM.credits_bind (EvalM.silent_of_text _).credits fun _ _ _ => .of_same rfl

end Crediting

/-- A message of a call that a run tells belongs to a call that it comes to. -/
theorem Interpreter.run_credits {interpreter : Interpreter} {source : String}
    {program : List Expr} (traced : interpreter.options.traceExecution = true)
    (parsed : parseSource source = .ok program) :
    interpreter.machine.Credits (interpreter.Comes program)
      (interpreter.run source).2.machine := by
  have applier : interpreter.applier = applyWithin true recursionLimit := by
    unfold applier
    rw [traced]
  rw [interpreter.run_of_parsed parsed, evaluate, perform_machine, applier, traced,
    eval_sequence_eq_run]
  refine (Script.run_credits (apply_within_credits recursionLimit)
    (script_sequence_uncalling globalScope .nil program) interpreter.machine).mono ?_
  unfold Comes
  rw [traced, applier]
  exact fun _ _ made => made

def Turn.messages (turn : Turn) : List TraceEntry :=
  turn.events.toList.filterMap Interpreter.traceEntry?

namespace Interpreter

def log (interpreter : Interpreter) (sources : List String) : List TraceEntry :=
  (interpreter.turns sources).flatMap Turn.messages

def resumed (interpreter : Interpreter) (sources : List String) : Interpreter :=
  sources.foldl (fun current source => (current.turn source).after) interpreter

/-- Tracing is on, no call is in progress, what was told has been handed out, and all
procedures come from sources. -/
structure Ready (interpreter : Interpreter) : Prop where
  traced : interpreter.options.traceExecution = true
  idle : interpreter.machine.depth = 0
  heard : interpreter.machine.messages = []
  sourced : interpreter.machine.Sourced

theorem start_ready {options : Options} (traced : options.traceExecution = true)
    (watcher : Watcher) (files : FileSystem) : (start options watcher files).Ready :=
  ⟨traced, rfl, rfl, start_sourced Native.standard files⟩

/-- In a session, a call of a procedure is made: in one of the runs, after so many messages,
by an application in which so many may nest. -/
def Calls (interpreter : Interpreter) (sources : List String) (before : List TraceEntry)
    (limit : Nat) (call : Application) (closure : Closure) : Prop :=
  ∃ earlier source later program, sources = earlier ++ source :: later ∧
    parseSource source = .ok program ∧ (interpreter.resumed earlier).Comes program limit call ∧
    call.callee = .closure closure ∧ before = interpreter.log earlier ++ call.machine.messages

variable {interpreter : Interpreter}

theorem log_cons (source : String) (sources : List String) :
    interpreter.log (source :: sources) =
      (interpreter.turn source).messages ++ (interpreter.turn source).after.log sources :=
  List.flatMap_cons

theorem log_append (earlier later : List String) :
    interpreter.log (earlier ++ later) =
      interpreter.log earlier ++ (interpreter.resumed earlier).log later := by
  induction earlier generalizing interpreter with
  | nil => rfl
  | cons source earlier ih =>
      rw [List.cons_append, log_cons, log_cons, ih, List.append_assoc]
      rfl

theorem run_continues (traced : interpreter.options.traceExecution = true) (source : String) :
    interpreter.machine.Continues (interpreter.run source).2.machine := by
  cases parsed : parseSource source with
  | error error =>
      rw [interpreter.run_of_unread parsed]
      exact .of_silent rfl rfl
  | ok program =>
      have nested := Script.run_nested (apply_within_nested recursionLimit)
        (scriptSequence globalScope .nil program)
      rw [interpreter.run_of_parsed parsed, evaluate, perform_machine, applier, traced,
        eval_sequence_eq_run]
      exact nested.after interpreter.machine

namespace Ready

theorem legible (ready : interpreter.Ready) : interpreter.machine.Legible := by
  refine ⟨ready.sourced, ?_⟩
  rw [ready.heard]
  exact fun _ member => by cases member

theorem turn (ready : interpreter.Ready) (source : String) :
    (interpreter.turn source).after.Ready ∧ CallLog 0 (interpreter.turn source).messages ∧
      ∀ entry ∈ (interpreter.turn source).messages, Begins entry.text := by
  have legible := run_legible ready.legible source
  obtain ⟨depth, log, told, nested⟩ := run_continues ready.traced source
  rw [ready.heard, List.nil_append] at told
  rw [ready.idle] at depth nested
  have messages : (interpreter.turn source).messages = log := told
  refine ⟨⟨?_, depth, rfl, legible.sourced⟩, messages ▸ nested, legible.begin⟩
  change (interpreter.run source).2.options.traceExecution = true
  rw [interpreter.run_keeps source]
  exact ready.traced

theorem turns (ready : interpreter.Ready) (sources : List String) :
    ∀ turn ∈ interpreter.turns sources, CallLog 0 turn.messages ∧
      ∀ entry ∈ turn.messages, Begins entry.text := by
  induction sources generalizing interpreter with
  | nil => exact fun _ member => by cases member
  | cons source sources ih =>
      obtain ⟨next, here⟩ := ready.turn source
      exact List.forall_mem_cons.mpr ⟨here, ih next⟩

theorem log_nested (ready : interpreter.Ready) (sources : List String) :
    CallLog 0 (interpreter.log sources) := by
  induction sources generalizing interpreter with
  | nil => exact .nil
  | cons source sources ih =>
      obtain ⟨next, nested, -⟩ := ready.turn source
      rw [log_cons]
      exact nested.append (ih next)

theorem resumed (ready : interpreter.Ready) (sources : List String) :
    (interpreter.resumed sources).Ready := by
  induction sources generalizing interpreter with
  | nil => exact ready
  | cons source sources ih => exact ih (ready.turn source).1

theorem credits (ready : interpreter.Ready) (sources : List String)
    {before after : List TraceEntry} {entry : TraceEntry} {closure : Closure}
    (split : interpreter.log sources = before ++ entry :: after)
    (calling : entry.step = .call closure) :
    ∃ limit call, interpreter.Calls sources before (limit + 1) call closure := by
  induction sources generalizing interpreter before with
  | nil =>
      exact absurd split.symm (List.append_ne_nil_of_right_ne_nil _ (List.cons_ne_nil _ _))
  | cons source sources ih =>
      rw [log_cons] at split
      rcases append_split split with ⟨between, here⟩ | ⟨between, rfl, there⟩
      · have told : (interpreter.run source).2.machine.messages = before ++ entry :: between := here
        cases parsed : parseSource source with
        | error error =>
            rw [interpreter.run_of_unread parsed, ready.heard] at told
            exact absurd told.symm
              (List.append_ne_nil_of_right_ne_nil _ (List.cons_ne_nil _ _))
        | ok program =>
            obtain ⟨log, same, credited⟩ := run_credits ready.traced parsed
            rw [ready.heard, List.nil_append] at same
            obtain ⟨limit, call, made, callee, place⟩ :=
              credited before entry between closure (same.symm.trans told) calling
            rw [ready.heard] at place
            exact ⟨limit, call, [], source, sources, program, rfl, parsed, made, callee, place.symm⟩
      · obtain ⟨limit, call, earlier, other, later, program, rfl, parsed, comes, callee, place⟩ :=
          ih (ready.turn source).1 there
        refine ⟨limit, call, source :: earlier, other, later, program, rfl, parsed, comes, callee,
          ?_⟩
        rw [place, log_cons, List.append_assoc]

/-- What was told while a call was in progress is the block of deeper messages behind its
own. -/
theorem block (ready : interpreter.Ready) {sources : List String} {before : List TraceEntry}
    {limit : Nat} {call : Application} {closure : Closure}
    (calls : interpreter.Calls sources before (limit + 1) call closure) :
    ∃ during after,
      (call.left (applyWithin true (limit + 1))).messages =
        call.machine.messages ++ callMessage call.machine.depth closure :: during ∧
      interpreter.log sources =
        before ++ callMessage call.machine.depth closure :: (during ++ after) ∧
      (during ++ after).takeWhile (call.machine.depth < ·.depth) = during ∧
      (call.arguments.length ≠ closure.arity → during = []) := by
  obtain ⟨earlier, source, later, program, rfl, parsed, comes, callee, rfl⟩ := calls
  have current := ready.resumed earlier
  obtain ⟨next, -, -⟩ := current.turn source
  obtain ⟨during, told, nested, unfit⟩ := call_closure_tells (apply_within_nested limit) closure
    call.arguments call.site call.machine
  have left : (call.left (applyWithin true (limit + 1))).messages =
      call.machine.messages ++ callMessage call.machine.depth closure :: during := by
    unfold Application.left
    rw [callee]
    exact told
  obtain ⟨rest, more, level⟩ := comes.surfaces current.traced parsed
  have messages : ((interpreter.resumed earlier).turn source).messages =
      (call.left (applyWithin true (limit + 1))).messages ++ rest := more
  let others := ((interpreter.resumed earlier).turn source).after.log later
  refine ⟨during, rest ++ others, left, ?_, ?_, unfit⟩
  · rw [log_append, log_cons, messages, left]
    simp only [List.append_assoc, List.cons_append]
    rfl
  · refine nested.take_deeper (head_append level fun entry member => ?_)
    rw [(next.log_nested later).head_depth entry member]
    exact Nat.zero_le _

end Ready

end Interpreter

/-- The calls of a session can be read off its trace. A message is indented by twice its
depth. The first message of each run has depth zero, and a message is deeper than the one
before it only by one, and only behind the message of a call. The messages of calls are
those of the calls that are made, one for each: it stands where the call begins, unless
no more applications may nest. What was told while the call was in progress is exactly
the block of deeper messages that follows, whether the call returns or fails, and whether
an expression asked for it or a native function; and nothing was told if the number of
arguments was wrong. -/
theorem calls_read_off_trace (interpreter : Interpreter) (ready : interpreter.Ready)
    (sources : List String) :
    let log := interpreter.log sources
    (∀ entry ∈ log, entry.indentation = 2 * entry.depth) ∧
    (∀ turn ∈ interpreter.turns sources, ∀ entry ∈ turn.messages.head?, entry.depth = 0) ∧
    log.IsChain TraceEntry.Leads ∧
    (∀ before entry after closure, log = before ++ entry :: after → entry.step = .call closure →
      ∃ limit call, interpreter.Calls sources before (limit + 1) call closure) ∧
    ∀ before limit call closure, interpreter.Calls sources before (limit + 1) call closure →
      ∃ during after,
        (call.left (applyWithin true (limit + 1))).messages =
          call.machine.messages ++ callMessage call.machine.depth closure :: during ∧
        log = before ++ callMessage call.machine.depth closure :: (during ++ after) ∧
        (during ++ after).takeWhile (call.machine.depth < ·.depth) = during ∧
        (call.arguments.length ≠ closure.arity → during = []) := by
  intro log
  have nested := ready.turns sources
  refine ⟨fun entry member => ?_, fun turn member => (nested turn member).1.head_depth,
    (ready.log_nested sources).chain, ?_, ?_⟩
  · obtain ⟨turn, among, told⟩ := List.mem_flatMap.mp member
    exact indentation_of_begins ((nested turn among).2 entry told)
  · exact fun before entry after closure split calling => ready.credits sources split calling
  · exact fun before limit call closure calls => ready.block calls

def TraceStep.closure? : TraceStep → Option Closure
  | .call closure => some closure
  | _ => none

/-- A call that a native function asks for, in the second run of a session. A call with the
wrong number of arguments follows. -/
theorem calls_read_off_trace_callback :
    let interpreter := Interpreter.start { traceExecution := true } (.buffer {}) {}
    let sources := ["(define f [x] x)", "(map f (list 1)) (f)"]
    ∃ before limit call closure during after,
      interpreter.Calls sources before (limit + 1) call closure ∧
      (call.left (applyWithin true (limit + 1))).messages =
        call.machine.messages ++ callMessage call.machine.depth closure :: during ∧
      interpreter.log sources =
        before ++ callMessage call.machine.depth closure :: (during ++ after) ∧
      during.map TraceEntry.text = ["x in f", "loading binding x"] := by
  intro interpreter sources
  let log := interpreter.log sources
  have ready : interpreter.Ready := Interpreter.start_ready rfl _ _
  obtain ⟨-, -, -, belongs, block⟩ := calls_read_off_trace interpreter ready sources
  have message : (log[15]?.bind fun entry => entry.step.closure?).isSome = true := by decide +kernel
  have level : log[15]?.map TraceEntry.depth = some 0 := by decide +kernel
  have deeper : ((log.drop 16).takeWhile (0 < ·.depth)).map TraceEntry.text =
      ["x in f", "loading binding x"] := by decide +kernel
  cases found : log[15]? with
  | none =>
      rw [found] at message
      cases message
  | some entry =>
      rw [found] at message level
      have depth : entry.depth = 0 := Option.some.inj level
      obtain ⟨closure, calling⟩ : ∃ closure, entry.step = .call closure := by
        unfold TraceStep.closure? at message
        dsimp only [Option.bind] at message
        split at message
        next closure calling => exact ⟨closure, calling⟩
        next => cases message
      have split : log = log.take 15 ++ entry :: log.drop 16 := by
        obtain ⟨bound, here⟩ := List.getElem?_eq_some_iff.mp found
        rw [← here, ← List.drop_eq_getElem_cons bound, List.take_append_drop]
      obtain ⟨limit, call, calls⟩ := belongs (log.take 15) entry (log.drop 16) closure split calling
      obtain ⟨during, after, left, whole, blocked, -⟩ := block _ limit call closure calls
      have same := List.append_cancel_left (split.symm.trans whole)
      obtain ⟨rfl, rest⟩ := List.cons.inj same
      refine ⟨log.take 15, limit, call, closure, during, after, calls, left, whole, ?_⟩
      have idle : call.machine.depth = 0 := depth
      rw [← rest, idle] at blocked
      rw [← blocked]
      exact deeper

end Lisplet
