import Lisplet.Proofs.Frame
import Lisplet.Proofs.Natives
import Lisplet.Proofs.Relocation

/-!
# Two evaluations side by side

A likeness is a way in which two evaluations of one program can go alike: in machines
that differ in some respects, and with or without a trace. It says what the two may
differ in and that the primitives of the machine respect it. Everything else follows
once and for all: the evaluations end alike, with the same value or the same failure,
and the machines they leave are alike again. The first evaluation may also drop out
of the comparison, with a failure that the likeness gives up on.
-/

namespace Lisplet

/-- What a likeness says of scopes. -/
structure ScopeLikeness where
  /-- How source locations differ in the second evaluation. -/
  move : Location → Location
  /-- Scopes that are alike in all respects, and from which only such are reached. -/
  near : ScopeId → Prop
  scopes : Scopes → Scopes → Prop
  size_eq : ∀ {first second}, scopes first second → second.size = first.size
  location_eq : ∀ {first second}, scopes first second →
    ∀ scope, second.location scope = first.location scope
  lookup_eq : ∀ {first second scope}, scopes first second → near scope →
    ∀ name, second.lookup? scope name = (first.lookup? scope name).map (Value.relocate move)
  lookup_near : ∀ {first second scope name value}, scopes first second → near scope →
    first.lookup? scope name = some value → value.Within fun closure => near closure.scope
  define : ∀ {first second scope value}, scopes first second → near scope →
    value.Within (fun closure => near closure.scope) →
    ∀ name, scopes (first.define scope name value) (second.define scope name (value.relocate move))
  make : ∀ {first second parent added}, scopes first second → near parent →
    (∀ pair ∈ added, pair.2.Within fun closure => near closure.scope) →
    ∀ location, scopes (first.make (some parent) location added)
      (second.make (some parent) location (Bindings.relocate move added))
  made_near : ∀ {first second}, scopes first second → near first.size

structure Likeness extends ScopeLikeness where
  /-- Whether the first evaluation is traced. -/
  tracing : Bool
  /-- Whether the second one is. -/
  echoing : Bool
  /-- Whether the trace may be kept in a file. -/
  filed : Prop
  shown : Array Event → Array Event → Prop
  /-- Failures with which the first evaluation drops out. -/
  lost : Failure → Prop
  display : ∀ {first second}, shown first second →
    ∀ text, shown (first.push (.display text)) (second.push (.display text))
  trace : tracing = true → ∀ {first second}, shown first second →
    ∀ entry : TraceEntry, shown (first.push (.trace entry))
      (if echoing then second.push (.trace (entry.relocate move)) else second)
  /-- Only what is traced in the first evaluation is traced in the second. -/
  heard : echoing = true → tracing = true
  /-- Where only the first evaluation is traced, it alone can find a text missing. -/
  unheard : tracing = true → echoing = false → ∀ reason, lost (.host (.unwritable reason))
  caught_up : filed → ∀ {first second}, shown first second →
    ∀ file : TraceFile, file.catchUp second = file.catchUp first
  lost_blamed : ∀ {failure}, lost failure → ∀ site, lost (blameNative site failure)

/-- Both evaluations are traced or neither, and neither drops out. -/
def ScopeLikeness.faithful (alike : ScopeLikeness) (tracing : Bool) : Likeness where
  toScopeLikeness := alike
  tracing := tracing
  echoing := tracing
  filed := True
  shown := fun first second => second = first.map (Event.relocate alike.move)
  lost := fun _ => False
  display := by
    rintro first _ rfl text
    rw [Array.map_push]
    rfl
  trace := by
    rintro traced first _ rfl entry
    rw [if_pos traced, Array.map_push]
    rfl
  heard := id
  unheard := by
    intro traced unechoed
    rw [traced] at unechoed
    cases unechoed
  caught_up := by
    rintro - first _ rfl file
    exact file.catch_up_relocate alike.move first
  lost_blamed := fun gone => gone.elim

namespace Likeness

variable (like : Likeness)

def Known (closure : Closure) : Prop :=
  like.near closure.scope

/-- Machines that are alike but for what the likeness leaves open. -/
structure Machines (first second : Machine) : Prop where
  scopes : like.scopes first.scopes second.scopes
  shown : like.shown first.events second.events
  files : second.files = first.files
  traceFile : second.traceFile = first.traceFile
  filed : first.traceFile.isSome → like.filed
  depth : second.depth = first.depth
  sites : second.sites = first.sites
  serial : second.serial = first.serial
  notes : second.notes = first.notes

theorem Machines.eq {like : Likeness} {first second : Machine}
    (alike : like.Machines first second) :
    second = { first with scopes := second.scopes, events := second.events } := by
  obtain ⟨scopes, files, traceFile, events, depth, sites, serial, notes⟩ := second
  obtain ⟨-, -, sameFiles, sameTrace, -, sameDepth, sameSites, sameSerial, sameNotes⟩ := alike
  dsimp only at sameFiles sameTrace sameDepth sameSites sameSerial sameNotes ⊢
  rw [sameFiles, sameTrace, sameDepth, sameSites, sameSerial, sameNotes]

structure Values (first second : Value) : Prop where
  moved : second = first.relocate like.move
  known : first.Within like.Known

structure Lists (first second : List Value) : Prop where
  moved : second = first.map (Value.relocate like.move)
  known : ∀ value ∈ first, value.Within like.Known

inductive Ends {First Second : Type} (related : First → Second → Prop) :
    EStateM.Result Failure Machine First → EStateM.Result Failure Machine Second → Prop where
  | done {value : First} {other : Second} {first second : Machine} (same : related value other)
      (machines : like.Machines first second) : Ends related (.ok value first) (.ok other second)
  | failed {failure : Failure} {first second : Machine} (machines : like.Machines first second) :
      Ends related (.error failure first) (.error (failure.relocate like.move) second)
  | lost {failure : Failure} {first : Machine}
      {second : EStateM.Result Failure Machine Second} (gone : like.lost failure) :
      Ends related (.error failure first) second

/-- Two actions that end alike wherever they start alike. -/
def Alike {First Second : Type} (related : First → Second → Prop) (action : EvalM First)
    (echo : EvalM Second) : Prop :=
  ∀ first second, like.Machines first second → like.Ends related (action first) (echo second)

section Rules

variable {like} {First Second Result Echo : Type} {related : First → Second → Prop}
  {final : Result → Echo → Prop} {action : EvalM First} {echo : EvalM Second}

theorem alike_pure {value : First} {other : Second} (same : related value other) :
    like.Alike related (pure value) (pure other) :=
  fun _ _ machines => .done same machines

theorem alike_throw (failure : Failure) :
    like.Alike related (throw failure) (throw (failure.relocate like.move)) :=
  fun _ _ machines => .failed machines

theorem alike_fault (cause : Fault) :
    like.Alike related (EvalM.fault cause) (EvalM.fault cause) :=
  alike_throw (.host cause)

theorem Alike.bind {next : First → EvalM Result} {echoNext : Second → EvalM Echo}
    (begun : like.Alike related action echo)
    (rest : ∀ value other, related value other →
      like.Alike final (next value) (echoNext other)) :
    like.Alike final (action >>= next) (echo >>= echoNext) := by
  intro first second machines
  have ends := begun first second machines
  change like.Ends final (EStateM.bind action next first) (EStateM.bind echo echoNext second)
  unfold EStateM.bind
  generalize action first = outcome at ends ⊢
  generalize echo second = echoed at ends ⊢
  cases ends with
  | done same machines => exact rest _ _ same _ _ machines
  | failed machines => exact .failed machines
  | lost gone => exact .lost gone

theorem Alike.map {change : First → Result} {echoChange : Second → Echo}
    (begun : like.Alike related action echo)
    (fits : ∀ value other, related value other → final (change value) (echoChange other)) :
    like.Alike final (change <$> action) (echoChange <$> echo) := by
  rw [map_eq_pure_bind, map_eq_pure_bind]
  exact begun.bind fun value other same => alike_pure (fits value other same)

/-- Actions that are alike leave machines that are, unless the first drops out. -/
theorem Alike.after (alike : like.Alike related action echo) (kept : ∀ failure, ¬like.lost failure)
    {first second : Machine} (machines : like.Machines first second) :
    like.Machines (action.after first) (echo.after second) := by
  have ends := alike first second machines
  unfold EvalM.after
  generalize action first = outcome at ends ⊢
  generalize echo second = echoed at ends ⊢
  cases ends with
  | done same machines => exact machines
  | failed machines => exact machines
  | lost gone => exact absurd gone (kept _)

theorem Alike.ensuring {holds : First → Prop} (alike : like.Alike related action echo)
    (ensures : ∀ machine, Ensures action machine (fun value _ => holds value)
      (fun _ _ => True)) :
    like.Alike (fun value other => related value other ∧ holds value) action echo := by
  intro first second machines
  have ends := alike first second machines
  have sure := ensures first
  unfold Ensures at sure
  generalize action first = outcome at ends sure ⊢
  generalize echo second = echoed at ends ⊢
  cases ends with
  | done same machines => exact .done ⟨same, sure⟩ machines
  | failed machines => exact .failed machines
  | lost gone => exact .lost gone

theorem alike_get {next : Machine → EvalM Result} {echoNext : Machine → EvalM Echo}
    (rest : ∀ first second, like.Machines first second →
      like.Ends final (next first first) (echoNext second second)) :
    like.Alike final (get >>= next) (get >>= echoNext) :=
  fun first second machines => rest first second machines

theorem alike_modify {change echoChange : Machine → Machine}
    (keeps : ∀ first second, like.Machines first second →
      like.Machines (change first) (echoChange second)) :
    like.Alike (fun _ _ => True) (modify change : EvalM PUnit) (modify echoChange) :=
  fun first second machines => .done trivial (keeps first second machines)

theorem Alike.bracket {enter leave : Machine → Machine}
    (enters : ∀ first second, like.Machines first second →
      like.Machines (enter first) (enter second))
    (leaves : ∀ first second, like.Machines first second →
      like.Machines (leave first) (leave second))
    (alike : like.Alike related action echo) :
    like.Alike related (EvalM.bracket enter leave action) (EvalM.bracket enter leave echo) := by
  intro first second machines
  have ends := alike _ _ (enters first second machines)
  unfold EvalM.bracket
  generalize action (enter first) = outcome at ends ⊢
  generalize echo (enter second) = echoed at ends ⊢
  cases ends with
  | done same machines => exact .done same (leaves _ _ machines)
  | failed machines => exact .failed (leaves _ _ machines)
  | lost gone => exact .lost gone

theorem Alike.inside_call (alike : like.Alike related action echo) :
    like.Alike related (EvalM.insideCall action) (EvalM.insideCall echo) := by
  refine alike.bracket ?_ ?_
  · intro first second machines
    exact { machines with depth := congrArg (· + 1) machines.depth }
  · intro first second machines
    exact { machines with depth := congrArg (· - 1) machines.depth }

theorem Alike.inside_native (site : ScopeId) (alike : like.Alike related action echo) :
    like.Alike related (EvalM.insideNative site action) (EvalM.insideNative site echo) := by
  refine alike.bracket ?_ ?_
  · intro first second machines
    exact { machines with sites := congrArg (site :: ·) machines.sites }
  · intro first second machines
    exact { machines with sites := congrArg List.tail machines.sites }

theorem blame_native_relocate (move : Location → Location) (site : ScopeId) (failure : Failure) :
    blameNative site (failure.relocate move) = (blameNative site failure).relocate move := by
  cases failure <;> rfl

theorem Alike.blame_native (site : ScopeId) (alike : like.Alike related action echo) :
    like.Alike related (action.adaptExcept (blameNative site))
      (echo.adaptExcept (blameNative site)) := by
  intro first second machines
  have ends := alike first second machines
  unfold EStateM.adaptExcept
  generalize action first = outcome at ends ⊢
  generalize echo second = echoed at ends ⊢
  cases ends with
  | done same machines => exact .done same machines
  | failed machines =>
      dsimp only
      rw [blame_native_relocate]
      exact .failed machines
  | lost gone => exact .lost (like.lost_blamed gone site)

theorem alike_of_except {change : First → Second} (result : Except Fault First)
    (fits : ∀ value, result = .ok value → related value (change value)) :
    like.Alike related (EvalM.ofExcept result) (EvalM.ofExcept (change <$> result)) := by
  cases result with
  | ok value => exact alike_pure (fits value rfl)
  | error cause => exact alike_fault cause

theorem alike_of_text (result : Except Unwritable First) :
    like.Alike Eq (EvalM.ofText result) (EvalM.ofText result) := by
  cases result with
  | ok value => exact alike_pure rfl
  | error reason => exact alike_fault _

theorem announce_heard (step : Machine → TraceStep) (machine : Machine) :
    EvalM.announce true step machine =
      match (step machine).render with
      | .ok text =>
          .ok () { machine with
            events := machine.events.push (.trace ⟨machine.depth, step machine, text⟩) }
      | .error reason => .error (.host (.unwritable reason)) machine := by
  change EStateM.bind (EvalM.ofText (step machine).render) _ machine = _
  unfold EStateM.bind
  cases (step machine).render <;> rfl

theorem alike_announce {step echoStep : Machine → TraceStep}
    (same : ∀ first second, like.Machines first second →
      echoStep second = (step first).relocate like.move) :
    like.Alike (fun _ _ => True) (EvalM.announce like.tracing step)
      (EvalM.announce like.echoing echoStep) := by
  intro first second machines
  have moved := same first second machines
  have text : (echoStep second).render = (step first).render := by
    rw [moved, TraceStep.render_relocate]
  cases traced : like.tracing with
  | false =>
      have unechoed : like.echoing = false := by
        cases echoed : like.echoing with
        | false => rfl
        | true => exact absurd (like.heard echoed) (by simp [traced])
      rw [unechoed]
      exact .done trivial machines
  | true =>
      rw [announce_heard]
      have shown := like.trace traced machines.shown
      cases echoed : like.echoing with
      | true =>
          rw [announce_heard, text, moved, machines.depth]
          rw [echoed] at shown
          cases (step first).render with
          | ok text => exact .done trivial { machines with shown := shown _, depth := rfl }
          | error reason => exact .failed machines
      | false =>
          rw [echoed] at shown
          cases (step first).render with
          | ok text => exact .done trivial { machines with shown := shown _ }
          | error reason => exact .lost (like.unheard traced echoed reason)

theorem Alike.announced {step echoStep : Machine → TraceStep}
    (same : ∀ first second, like.Machines first second →
      echoStep second = (step first).relocate like.move)
    {next : Unit → EvalM First} {echoNext : Unit → EvalM Second}
    (rest : like.Alike related (next ()) (echoNext ())) :
    like.Alike related (EvalM.announce like.tracing step >>= next)
      (EvalM.announce like.echoing echoStep >>= echoNext) :=
  (alike_announce same).bind fun _ _ _ => rest

theorem alike_load {scope : ScopeId} (near : like.near scope) (name : String) :
    like.Alike like.Values (loadBinding scope name) (loadBinding scope name) := by
  refine alike_get fun first second machines => ?_
  rw [like.lookup_eq machines.scopes near name]
  cases looked : first.scopes.lookup? scope name with
  | some value => exact .done ⟨rfl, like.lookup_near machines.scopes near looked⟩ machines
  | none => exact .failed machines

theorem alike_define {scope : ScopeId} (near : like.near scope) (name : String)
    {value other : Value} (same : like.Values value other) :
    like.Alike (fun _ _ => True) (EvalM.define scope name value)
      (EvalM.define scope name other) := by
  refine alike_modify fun first second machines => ?_
  rw [same.moved]
  exact { machines with scopes := like.define machines.scopes near same.known name }

theorem alike_make_scope {parent : ScopeId} (near : like.near parent) (location : String)
    (parameters : List String) {arguments others : List Value}
    (same : like.Lists arguments others) :
    like.Alike (fun scope other => other = scope ∧ like.near scope)
      (EvalM.makeScope parent location (parameters.zip arguments))
      (EvalM.makeScope parent location (parameters.zip others)) := by
  intro first second machines
  have known (pair : String × Value) (member : pair ∈ parameters.zip arguments) :
      pair.2.Within like.Known := same.known _ (List.of_mem_zip member).2
  have made := like.make machines.scopes near known location
  rw [Bindings.relocate_zip, ← same.moved] at made
  exact .done ⟨like.size_eq machines.scopes, like.made_near machines.scopes⟩
    { machines with scopes := made }

end Rules

/-- Appliers that end alike on values that are alike; the site of the call may be any. -/
def Appliers (apply echo : Applier) : Prop :=
  ∀ {callee other : Value} {arguments others : List Value}, like.Values callee other →
    like.Lists arguments others →
    ∀ site, like.Alike like.Values (apply callee arguments site) (echo other others site)

section Evaluation

variable {like} {apply echo : Applier}

mutual

theorem eval_alike (applied : like.Appliers apply echo) {scope : ScopeId}
    (near : like.near scope) (expression : Expr) :
    like.Alike like.Values (expression.eval like.tracing apply scope)
      ((expression.relocate like.move).eval like.echoing echo scope) := by
  have located (first second : Machine) (machines : like.Machines first second) :
      second.scopes.location scope = first.scopes.location scope :=
    like.location_eq machines.scopes scope
  unfold Expr.eval
  refine .announced ?_ ?_
  · intro first second machines
    rw [located first second machines]
    rfl
  cases expression with
  | literal location value =>
      exact alike_pure ⟨(Value.relocate_of_datum _ _).symm, Value.within_of_datum _ value⟩
  | reference location name => exact .announced (fun _ _ _ => rfl) (alike_load near name)
  | apply location callee arguments =>
      refine .announced (fun _ _ _ => rfl) ?_
      refine (eval_alike applied near callee).bind fun procedure other called => ?_
      refine (eval_each_alike applied near arguments).bind fun values others given => ?_
      exact applied called given scope
  | branch location test consequent alternate =>
      refine (eval_alike applied near test).bind fun verdict other same => ?_
      rw [same.moved, Value.truthy_relocate]
      split_ifs
      · exact .announced (fun _ _ _ => rfl) (eval_alike applied near consequent)
      · exact .announced (fun _ _ _ => rfl) (eval_alike applied near alternate)
  | define location name value =>
      refine .announced (fun _ _ _ => rfl) ?_
      refine (eval_alike applied near value).bind fun result other same => ?_
      refine .announced (fun _ _ _ => by rw [same.moved]; rfl) ?_
      exact (alike_define near name same).bind fun _ _ _ => alike_pure same
  | procedure location name parameters body =>
      have same : like.Values (.closure ⟨scope, name, parameters, body⟩)
          (.closure ⟨scope, name, parameters, Expr.relocateAll like.move body⟩) :=
        ⟨rfl, Value.within_closure.mpr near⟩
      refine .announced (fun _ _ _ => rfl) ?_
      exact (alike_define near name same).bind fun _ _ _ => alike_pure same
  | lambda location parameters body =>
      refine .announced ?_ (alike_pure ⟨rfl, Value.within_closure.mpr near⟩)
      intro first second machines
      rw [located first second machines]
      rfl
  | quote location form =>
      refine .announced (fun _ _ _ => rfl) (alike_pure ⟨?_, quoted_value_within _ form⟩)
      exact quoted_value_relocate like.move form
  | plain value => exact alike_fault _

theorem eval_each_alike (applied : like.Appliers apply echo) {scope : ScopeId}
    (near : like.near scope) (expressions : List Expr) :
    like.Alike like.Lists (evalEach like.tracing apply scope expressions)
      (evalEach like.echoing echo scope (Expr.relocateAll like.move expressions)) := by
  cases expressions with
  | nil => exact alike_pure ⟨rfl, fun _ member => by cases member⟩
  | cons expression rest =>
      rw [Expr.relocateAll]
      unfold evalEach
      refine (eval_alike applied near expression).bind fun value other same => ?_
      refine (eval_each_alike applied near rest).bind fun values others alike => ?_
      refine alike_pure ⟨?_, List.forall_mem_cons.mpr ⟨same.known, alike.known⟩⟩
      rw [same.moved, alike.moved, List.map_cons]

end

theorem eval_sequence_alike (applied : like.Appliers apply echo) {scope : ScopeId}
    (near : like.near scope) {result other : Value} (same : like.Values result other)
    (expressions : List Expr) :
    like.Alike like.Values (evalSequence like.tracing apply scope result expressions)
      (evalSequence like.echoing echo scope other
        (Expr.relocateAll like.move expressions)) := by
  induction expressions generalizing result other with
  | nil => exact alike_pure same
  | cons expression rest ih =>
      rw [Expr.relocateAll]
      unfold evalSequence
      exact (eval_alike applied near expression).bind fun _ _ next => ih next

theorem nil_alike : like.Values .nil .nil :=
  ⟨rfl, Value.within_atom _ _⟩

theorem call_closure_alike (applied : like.Appliers apply echo) {closure : Closure}
    (known : like.Known closure) {arguments others : List Value}
    (same : like.Lists arguments others) (site : ScopeId) :
    like.Alike like.Values (callClosure like.tracing apply closure arguments site)
      (callClosure like.echoing echo (closure.relocate like.move) others site) := by
  unfold callClosure
  refine .announced (fun _ _ _ => rfl) ?_
  have length : others.length = arguments.length := by rw [same.moved, List.length_map]
  rw [length]
  change like.Alike like.Values _ (if arguments.length ≠ closure.arity then _ else _)
  split_ifs
  · exact alike_throw _
  · refine (alike_make_scope known closure.name closure.parameters same).bind ?_
    rintro scope _ ⟨rfl, near⟩
    exact (eval_sequence_alike applied near nil_alike closure.body).inside_call

theorem call_back_alike (applied : like.Appliers apply echo) {procedure other : Value}
    (called : like.Values procedure other) {arguments others : List Value}
    (same : like.Lists arguments others) :
    like.Alike like.Values (callBack apply procedure arguments) (callBack echo other others) := by
  refine alike_get fun first second machines => ?_
  rw [machines.sites]
  cases first.sites with
  | nil => exact alike_fault _ first second machines
  | cons site outer => exact applied called same site first second machines

end Evaluation

end Likeness

end Lisplet
