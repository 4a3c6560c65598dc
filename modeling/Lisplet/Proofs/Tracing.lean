import Lisplet.Proofs.LikeNatives
import Lisplet.Proofs.Runs

/-!
# Tracing only observes

A session is run twice, with the execution trace and without. As long as every value
that has to be described can be, the two go alike turn by turn: they come to the same
values and failures, display the same texts, and leave the same machine. The session
without a trace shows nothing but what it displays, whoever watches.
-/

namespace Lisplet

/-- Whether it was describing a value or an expression that failed. -/
def Failure.isUndescribed : Failure → Bool
  | .native (.unwritable _) _ => true
  | .host (.unwritable _) => true
  | _ => false

theorem Failure.undescribed_blamed (site : ScopeId) (failure : Failure) :
    (blameNative site failure).isUndescribed = failure.isUndescribed := by
  cases failure with
  | host cause => cases cause <;> rfl
  | arityMismatch | unbound | native => rfl

def Event.isDisplay : Event → Bool
  | .display _ => true
  | .trace _ => false

def ScopeLikeness.same : ScopeLikeness where
  move := id
  near := fun _ => True
  scopes := fun first second => second = first
  size_eq := by
    rintro first _ rfl
    rfl
  location_eq := by
    rintro first _ rfl scope
    rfl
  lookup_eq := by
    rintro first _ scope rfl - name
    exact (Value.map_relocate_id _).symm
  lookup_near := fun _ _ _ _ _ => trivial
  define := by
    rintro first _ scope value rfl - - name
    rw [Value.relocate_id]
  make := by
    rintro first _ parent added rfl - - location
    rw [Bindings.relocate_id]
  made_near := fun _ => trivial

/-- Of two evaluations in one machine, only the first may be traced. The second shows
what the first displays. -/
def Likeness.observed (tracing : Bool) : Likeness where
  toScopeLikeness := .same
  tracing := tracing
  echoing := false
  filed := tracing = false
  shown := fun first second =>
    second.toList = first.toList.filter Event.isDisplay ∧ (tracing = false → second = first)
  lost := fun failure => tracing = true ∧ failure.isUndescribed = true
  display := by
    rintro first second ⟨displayed, same⟩ text
    refine ⟨?_, fun silent => by rw [same silent]⟩
    rw [Array.toList_push, Array.toList_push, List.filter_append, displayed]
    rfl
  trace := by
    rintro traced first second ⟨displayed, -⟩ entry
    refine ⟨?_, fun silent => absurd (traced.symm.trans silent) Bool.noConfusion⟩
    rw [Array.toList_push, List.filter_append, ← displayed]
    exact (List.append_nil _).symm
  heard := fun echoed => absurd echoed Bool.noConfusion
  unheard := fun traced _ _ => ⟨traced, rfl⟩
  caught_up := by
    rintro silent first second ⟨-, same⟩ file
    rw [same silent]
  lost_blamed := fun gone site => ⟨gone.1, (Failure.undescribed_blamed site _).trans gone.2⟩

namespace Interpreter

def tracing (interpreter : Interpreter) (on : Bool) : Interpreter :=
  { interpreter with options := { interpreter.options with traceExecution := on } }

/-- The failure that the evaluation of a source ends with, as it was raised. -/
def failure? (interpreter : Interpreter) (source : String) : Option Failure :=
  match parseSource source with
  | .error _ => none
  | .ok program =>
      match evalSequence interpreter.options.traceExecution interpreter.applier globalScope
          .nil program interpreter.machine with
      | .ok _ _ => none
      | .error failure _ => some failure

end Interpreter

/-- One run of a session, together with what it showed. -/
structure Turn where
  outcome : Except RunError Value
  events : Array Event
  transcript : Transcript
  after : Interpreter

/-- What was displayed, where `display` writes it. -/
def Transcript.displayed (onOutput : Bool) (transcript : Transcript) : String :=
  if onOutput then transcript.output else transcript.page

namespace Interpreter

def turn (interpreter : Interpreter) (source : String) : Turn :=
  let (outcome, next) := interpreter.run source
  let (transcript, after) := next.deliver
  ⟨outcome, next.machine.events, transcript, after⟩

def turns (interpreter : Interpreter) : List String → List Turn
  | [] => []
  | source :: rest =>
      interpreter.turn source :: (interpreter.turn source).after.turns rest

/-- Nowhere in a session is there a value that cannot be described. A turn that comes
upon one ends with the failure to describe it, for nothing recovers from a failure. -/
def Describes (interpreter : Interpreter) : List String → Prop
  | [] => True
  | source :: rest =>
      (∀ failure ∈ interpreter.failure? source, failure.isUndescribed = false) ∧
        (interpreter.turn source).after.Describes rest

instance decidableDescribes (interpreter : Interpreter) :
    (sources : List String) → Decidable (interpreter.Describes sources)
  | [] => .isTrue trivial
  | source :: rest =>
      have := (interpreter.turn source).after.decidableDescribes rest
      inferInstanceAs (Decidable (_ ∧ _))

/-- The watcher of the trace does not write where `display` does. -/
def Apart (interpreter : Interpreter) : Prop :=
  match interpreter.watcher with
  | .output => interpreter.displayOnOutput = false
  | _ => True

end Interpreter

section Delivery

variable {onOutput : Bool}

theorem displayed_write_display (watcher : Watcher) (transcript : Transcript) (text : String) :
    (Interpreter.write onOutput watcher transcript (.display text)).displayed onOutput =
      transcript.displayed onOutput ++ text := by
  cases onOutput <;> rfl

theorem displayed_write_trace {watcher : Watcher}
    (apart : watcher = .output → onOutput = false) (transcript : Transcript)
    (entry : TraceEntry) :
    (Interpreter.write onOutput watcher transcript (.trace entry)).displayed onOutput =
      transcript.displayed onOutput := by
  cases watcher with
  | output =>
      rw [apart rfl]
      rfl
  | stream => cases onOutput <;> rfl
  | buffer | file => rfl

theorem displayed_fold {watcher : Watcher} (apart : watcher = .output → onOutput = false)
    (other : Watcher) (events : List Event) {transcript silent : Transcript}
    (same : silent.displayed onOutput = transcript.displayed onOutput) :
    ((events.filter Event.isDisplay).foldl (Interpreter.write onOutput other)
        silent).displayed onOutput =
      (events.foldl (Interpreter.write onOutput watcher) transcript).displayed onOutput := by
  induction events generalizing transcript silent with
  | nil => exact same
  | cons event events ih =>
      cases event with
      | display text =>
          apply ih
          rw [displayed_write_display, displayed_write_display, same]
      | trace entry =>
          apply ih
          rw [displayed_write_trace apart, same]

theorem stream_fold {events : List Event} (displays : ∀ event ∈ events, event.isDisplay = true)
    (watcher : Watcher) (transcript : Transcript) :
    (events.foldl (Interpreter.write onOutput watcher) transcript).stream =
      transcript.stream := by
  induction events generalizing transcript with
  | nil => rfl
  | cons event events ih =>
      obtain ⟨here, later⟩ := List.forall_mem_cons.mp displays
      cases event with
      | trace entry => cases here
      | display text =>
          rw [List.foldl_cons, ih later]
          cases onOutput <;> rfl

theorem watch_displays {events : Array Event}
    (displays : ∀ event ∈ events.toList, event.isDisplay = true) (watcher : Watcher) :
    Interpreter.watch events watcher = watcher := by
  cases watcher with
  | output | stream | file => rfl
  | buffer buffer =>
      have empty : events.toList.filterMap Interpreter.traceEntry? = [] := by
        refine List.filterMap_eq_nil_iff.mpr fun event member => ?_
        cases event with
        | display text => rfl
        | trace entry => cases displays _ member
      change Watcher.buffer (buffer.recordAll (events.toList.filterMap _)) = _
      rw [empty]
      unfold TraceBuffer.recordAll TraceBuffer.recent
      cases buffer.limit with
      | none => rfl
      | some limit => simp only [List.drop_nil, List.foldl_nil]

end Delivery

/-- Turns that differ in their trace only. -/
structure Turn.SameButTrace (traced silent : Turn) : Prop where
  outcome : silent.outcome = traced.outcome
  machine : silent.after.machine = traced.after.machine
  displays : silent.events.toList = traced.events.toList.filter Event.isDisplay
  displayed : silent.transcript.displayed silent.after.displayOnOutput =
    traced.transcript.displayed traced.after.displayOnOutput
  /-- Failures are told with the same words and the same stack trace. -/
  told : ∀ error : RunError,
    error.text silent.after.options silent.after.machine.scopes =
      error.text traced.after.options traced.after.machine.scopes

/-- Interpreters in the same state, of which only the first traces. -/
structure Interpreter.Observed (traced silent : Interpreter) : Prop where
  options : traced.options.traceExecution = true
  silenced : silent.options = { traced.options with traceExecution := false }
  machine : silent.machine = traced.machine
  display : silent.displayOnOutput = traced.displayOnOutput
  apart : traced.Apart
  rested : traced.machine.events = #[]
  unfiled : traced.machine.traceFile = none

section Observation

variable {on : Bool}

theorem observed_self {machine : Machine} (rested : machine.events = #[])
    (filed : machine.traceFile.isSome → on = false) :
    (Likeness.observed on).Machines machine machine := by
  refine ⟨rfl, ⟨?_, fun _ => rfl⟩, rfl, rfl, filed, rfl, rfl, rfl, rfl⟩
  rw [rested]
  rfl

theorem observed_machine {first second : Machine}
    (alike : (Likeness.observed on).Machines first second) :
    { second with events := #[] } = { first with events := #[] } := by
  have scopes : second.scopes = first.scopes := alike.scopes
  rw [alike.eq, scopes]

theorem program_observed (program : List Expr) :
    (Likeness.observed on).Alike (Likeness.observed on).Values
      (evalSequence on (applyWithin on recursionLimit) globalScope .nil program)
      (evalSequence false (applyWithin false recursionLimit) globalScope .nil program) := by
  have near : (Likeness.observed on).near globalScope := trivial
  have alike := Likeness.program_alike recursionLimit near program
  rwa [show Expr.relocateAll (Likeness.observed on).move program = program from
    Expr.relocate_all_id program] at alike

end Observation

theorem run_observed {traced silent : Interpreter} (observed : traced.Observed silent)
    {source : String}
    (described : ∀ failure ∈ traced.failure? source, failure.isUndescribed = false) :
    (silent.run source).1 = (traced.run source).1 ∧
      (Likeness.observed true).Machines (traced.run source).2.machine
        (silent.run source).2.machine := by
  have start : (Likeness.observed true).Machines traced.machine traced.machine :=
    observed_self observed.rested (by simp [observed.unfiled])
  unfold Interpreter.failure? at described
  cases spelled : parseSource source with
  | error error =>
      rw [traced.run_of_unread spelled, silent.run_of_unread spelled]
      refine ⟨rfl, ?_⟩
      dsimp only
      rw [observed.machine]
      exact start
  | ok program =>
      rw [spelled] at described
      dsimp only at described
      rw [traced.run_of_parsed spelled, silent.run_of_parsed spelled]
      unfold Interpreter.evaluate Interpreter.applier Interpreter.perform
      have ends := program_observed program _ _ start
      unfold Interpreter.applier at described
      rw [observed.silenced, observed.machine, observed.options]
      rw [observed.options] at described
      dsimp only
      generalize evalSequence true _ _ _ _ _ = outcome at ends described ⊢
      generalize evalSequence false _ _ _ _ _ = echoed at ends ⊢
      cases ends with
      | done same machines =>
          obtain ⟨rfl, -⟩ := same
          exact ⟨congrArg Except.ok (Value.relocate_id _), machines⟩
      | failed machines =>
          refine ⟨?_, machines⟩
          rw [show (Likeness.observed true).move = id from rfl, Failure.relocate_id]
          rfl
      | lost gone =>
          -- The traced evaluation has met a value that it could not announce.
          exact absurd gone.2 (Bool.eq_false_iff.mp (described _ rfl))

/-- One turn of a session, with the trace and without. -/
theorem turn_observed {traced silent : Interpreter} (observed : traced.Observed silent)
    {source : String}
    (described : ∀ failure ∈ traced.failure? source, failure.isUndescribed = false) :
    (traced.turn source).SameButTrace (silent.turn source) ∧
      (traced.turn source).after.Observed (silent.turn source).after := by
  obtain ⟨outcome, machines⟩ := run_observed observed described
  have machine := observed_machine machines
  have unfiled : (traced.run source).2.machine.traceFile = none := by
    rw [← Option.not_isSome_iff_eq_none]
    exact fun present => absurd (machines.filed present) Bool.noConfusion
  have tracedKept := traced.run_keeps source
  have silentKept := silent.run_keeps source
  unfold Interpreter.turn Interpreter.deliver
  generalize traced.run source = loud at *
  generalize silent.run source = mute at *
  obtain ⟨_, loud⟩ := loud
  obtain ⟨_, mute⟩ := mute
  dsimp only at *
  have options : mute.options = { loud.options with traceExecution := false } := by
    rw [silentKept, tracedKept]
    exact observed.silenced
  have display : mute.displayOnOutput = loud.displayOnOutput := by
    rw [silentKept, tracedKept]
    exact observed.display
  have apart : loud.Apart := by
    rw [tracedKept]
    exact observed.apart
  refine ⟨⟨outcome, machine, machines.shown.1, ?_, ?_⟩,
    ⟨?_, options, machine, display, ?_, rfl, unfiled⟩⟩
  · dsimp only
    rw [display, ← Array.foldl_toList, ← Array.foldl_toList, machines.shown.1]
    refine displayed_fold (fun there => ?_) mute.watcher loud.machine.events.toList rfl
    unfold Interpreter.Apart at apart
    rwa [there] at apart
  · intro error
    have scopes : mute.machine.scopes = loud.machine.scopes := machines.scopes
    dsimp only
    rw [scopes, options]
    cases error with
    | failed failure => cases failure <;> rfl
    | scan | parse => rfl
  · dsimp only
    rw [tracedKept]
    exact observed.options
  · unfold Interpreter.Apart at apart ⊢
    dsimp only
    cases watched : loud.watcher <;> rw [watched] at apart <;> exact apart

theorem run_silent {interpreter : Interpreter}
    (untraced : interpreter.options.traceExecution = false)
    (rested : interpreter.machine.events = #[]) (source : String) :
    ∀ event ∈ (interpreter.run source).2.machine.events.toList, event.isDisplay = true := by
  have start : (Likeness.observed false).Machines interpreter.machine interpreter.machine :=
    observed_self rested fun _ => rfl
  have displays {machine other : Machine}
      (alike : (Likeness.observed false).Machines machine other) :
      ∀ event ∈ machine.events.toList, event.isDisplay = true := by
    obtain ⟨filtered, same⟩ := alike.shown
    rw [same rfl] at filtered
    exact List.filter_eq_self.mp filtered.symm
  cases parsed : parseSource source with
  | error error =>
      rw [interpreter.run_of_unread parsed]
      exact displays start
  | ok program =>
      rw [interpreter.run_of_parsed parsed]
      unfold Interpreter.evaluate Interpreter.applier
      rw [Interpreter.perform_machine, untraced]
      refine displays ((program_observed program).after ?_ start)
      exact fun failure gone => absurd gone.1 Bool.noConfusion

structure Turn.Silent (watcher : Watcher) (turn : Turn) : Prop where
  displays : ∀ event ∈ turn.events.toList, event.isDisplay = true
  stream : turn.transcript.stream = ""
  watcher : turn.after.watcher = watcher

theorem turn_silent {interpreter : Interpreter}
    (untraced : interpreter.options.traceExecution = false)
    (rested : interpreter.machine.events = #[]) (source : String) :
    (interpreter.turn source).Silent interpreter.watcher := by
  have displays := run_silent untraced rested source
  have kept := interpreter.run_keeps source
  refine ⟨displays, ?_, ?_⟩
  · unfold Interpreter.turn Interpreter.deliver
    dsimp only
    rw [← Array.foldl_toList]
    exact stream_fold displays _ _
  · unfold Interpreter.turn Interpreter.deliver
    dsimp only
    rw [watch_displays displays, kept]

theorem turns_observed {traced silent : Interpreter} (observed : traced.Observed silent)
    {sources : List String} (describes : traced.Describes sources) :
    List.Forall₂ Turn.SameButTrace (traced.turns sources) (silent.turns sources) := by
  induction sources generalizing traced silent with
  | nil => exact .nil
  | cons source rest ih =>
      obtain ⟨same, next⟩ := turn_observed observed describes.1
      exact .cons same (ih next describes.2)

theorem turns_silent {interpreter : Interpreter}
    (untraced : interpreter.options.traceExecution = false)
    (rested : interpreter.machine.events = #[]) (sources : List String) :
    ∀ turn ∈ interpreter.turns sources, turn.Silent interpreter.watcher := by
  induction sources generalizing interpreter with
  | nil => exact fun _ member => by cases member
  | cons source rest ih =>
      have here := turn_silent untraced rested source
      have still : (interpreter.turn source).after.options.traceExecution = false := by
        unfold Interpreter.turn Interpreter.deliver
        dsimp only
        rw [interpreter.run_keeps source]
        exact untraced
      have later := @ih (interpreter.turn source).after still rfl
      rw [here.watcher] at later
      exact List.forall_mem_cons.mpr ⟨here, later⟩

/-- In every session of an interpreter at rest: if the watcher of the trace is apart from
the display, and no value is met that cannot be described, then each turn with the trace
comes to the same outcome as without, displays the same, and leaves the same machine, so
the same files and scopes. Without the trace, no turn shows a trace message to any
watcher. -/
theorem tracing_only_observes (interpreter : Interpreter) (sources : List String)
    (rested : interpreter.machine.events = #[]) :
    (interpreter.Apart → interpreter.machine.traceFile = none →
      (interpreter.tracing true).Describes sources →
        List.Forall₂ Turn.SameButTrace ((interpreter.tracing true).turns sources)
          ((interpreter.tracing false).turns sources)) ∧
      ∀ turn ∈ (interpreter.tracing false).turns sources, turn.Silent interpreter.watcher := by
  refine ⟨fun apart unfiled describes => ?_, ?_⟩
  · have observed : (interpreter.tracing true).Observed (interpreter.tracing false) :=
      ⟨rfl, rfl, rfl, rfl, apart, rested, unfiled⟩
    exact turns_observed observed describes
  · exact @turns_silent (interpreter.tracing false) rfl rested sources

/-- A procedure that displays its argument is defined, called, and called without one,
while a buffer takes the trace. -/
theorem tracing_only_observes_display :
    let interpreter := Interpreter.start {} (.buffer {}) {}
    let sources := ["(define f [x] (display x))", "(f 1)", "(f)"]
    List.Forall₂ Turn.SameButTrace ((interpreter.tracing true).turns sources)
      ((interpreter.tracing false).turns sources) := by
  intro interpreter sources
  have describes : (interpreter.tracing true).Describes sources := by decide +kernel
  exact (tracing_only_observes interpreter sources rfl).1 trivial rfl describes

end Lisplet
