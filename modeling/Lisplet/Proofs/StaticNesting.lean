import Lisplet.Proofs.SoundRecord

/-!
# Stack traces are static nesting

Whenever an occurrence of a program is evaluated, the stack trace of the scope reads
off the procedures whose bodies enclose the occurrence in the source. Evaluation keeps
the record of a session sound, expression by expression, call by call and run by run.
-/

namespace Lisplet

/-- A recorded applier that keeps records sound; the failures left to its caller are
those of the application itself. -/
def RecordApplier.Trusted (programs : List (List Expr)) (apply : RecordApplier) : Prop :=
  ∀ recorder callee arguments site, recorder.Ready programs → Recorder.Holds callee recorder →
    Recorder.HoldsAll arguments recorder →
    recorder.Keeps programs (apply callee arguments site) Recorder.Holds (Failure.AtCall site)

theorem Failure.AtCall.raised {site : ScopeId} {failure : Failure} (atCall : failure.AtCall site)
    (location : Option Location) (callee : Expr) (arguments : List Expr) :
    failure.scope? = some site ∧ (Expr.apply location callee arguments).Raises failure := by
  cases failure with
  | arityMismatch closure given scope => exact ⟨congrArg some atCall, trivial⟩
  | native cause scope => exact ⟨congrArg some atCall, trivial⟩
  | unbound name scope => exact atCall.elim
  | host cause => exact atCall.elim

section Evaluation

variable (tracing : Bool) {programs : List (List Expr)} {apply : RecordApplier}

/-- The numbered occurrences are those of the expressions, from a number on. -/
def Occurs (programs : List (List Expr)) (occurrences : Nat → Occurrence) (index : Nat)
    (expressions : List Expr) : Prop :=
  ∀ offset expression, expressions[offset]? = some expression →
    (occurrences (index + offset)).expression? programs = some expression

theorem Occurs.head {occurrences : Nat → Occurrence} {index : Nat} {expression : Expr}
    {rest : List Expr} (occurs : Occurs programs occurrences index (expression :: rest)) :
    (occurrences index).expression? programs = some expression :=
  occurs 0 expression rfl

theorem Occurs.tail {occurrences : Nat → Occurrence} {index : Nat} {expression : Expr}
    {rest : List Expr} (occurs : Occurs programs occurrences index (expression :: rest)) :
    Occurs programs occurrences (index + 1) rest := by
  intro offset later present
  have found := occurs (offset + 1) later present
  rwa [Nat.add_comm offset 1, ← Nat.add_assoc] at found

mutual

theorem record_keeps (trusted : apply.Trusted programs) {recorder : Recorder} {here : Occurrence}
    {scope : ScopeId} (expression : Expr) (ready : recorder.Ready programs)
    (occurs : here.expression? programs = some expression)
    (hosts : recorder.machine.scopes.Hosts programs scope here) :
    recorder.Keeps programs (expression.record tracing apply here scope) Recorder.Holds
      (fun _ => False) := by
  unfold Expr.record
  refine .visiting ready occurs hosts (fun _ raised => raised) fun inner entered ready tells => ?_
  replace hosts := hosts.later entered.scopes
  refine .announcing ready (fun shown same => ?_) fun after extended ready => ?_
  · cases same
    exact tells
  replace hosts := hosts.later extended.scopes
  cases expression with
  | literal location value => exact Recorder.keeps_pure ready (Value.within_of_datum _ value)
  | reference location name =>
      refine .announced (fun _ => rfl) ready fun after _ ready => ?_
      refine (Recorder.keeps_load scope name ready).weaken (fun _ _ within => within) ?_
      rintro failure rfl
      exact ⟨rfl, rfl⟩
  | apply location callee arguments =>
      refine .announced (fun _ => rfl) ready fun begun extended ready => ?_
      replace hosts := hosts.later extended.scopes
      have calleeKept := record_keeps trusted callee ready
        (Occurrence.inside_expression occurs rfl) (hosts.inside occurs rfl 0)
      refine calleeKept.settled.bind fun procedure called extended ready procedureHolds => ?_
      replace hosts := hosts.later extended.scopes
      have argumentsOccur : Occurs programs here.inside 1 arguments := by
        intro offset part present
        refine Occurrence.inside_expression occurs ?_
        rwa [Nat.add_comm 1 offset]
      have argumentsKept := record_each_keeps trusted arguments ready argumentsOccur
        fun index => hosts.inside occurs rfl index
      refine argumentsKept.settled.bind fun values given extended ready valuesHold => ?_
      refine (trusted given procedure values scope ready (extended.within procedureHolds)
        valuesHold).weaken (fun _ _ holds => holds) fun failure atCall => ?_
      exact atCall.raised location callee arguments
  | branch location test consequent alternate =>
      have testKept := record_keeps trusted test ready (Occurrence.inside_expression occurs rfl)
        (hosts.inside occurs rfl 0)
      refine testKept.settled.bind fun verdict tested extended ready _ => ?_
      replace hosts := hosts.later extended.scopes
      split_ifs
      · refine .announced (fun _ => rfl) ready fun after extended ready => ?_
        exact (record_keeps trusted consequent ready (Occurrence.inside_expression occurs rfl)
          ((hosts.later extended.scopes).inside occurs rfl 1)).settled
      · refine .announced (fun _ => rfl) ready fun after extended ready => ?_
        exact (record_keeps trusted alternate ready (Occurrence.inside_expression occurs rfl)
          ((hosts.later extended.scopes).inside occurs rfl 2)).settled
  | define location name value =>
      refine .announced (fun _ => rfl) ready fun begun extended ready => ?_
      replace hosts := hosts.later extended.scopes
      have valueKept := record_keeps trusted value ready (Occurrence.inside_expression occurs rfl)
        (hosts.inside occurs rfl 0)
      refine valueKept.settled.bind fun result valued _ ready holds => ?_
      refine .announced (fun _ => rfl) ready fun told extended ready => ?_
      replace holds := extended.within holds
      refine (Recorder.keeps_define scope name holds ready).bind fun _ after extended ready _ => ?_
      exact Recorder.keeps_pure ready (extended.within holds)
  | procedure location name parameters body =>
      refine .announced (fun _ => rfl) ready fun begun extended ready => ?_
      replace hosts := hosts.later extended.scopes
      refine (Recorder.keeps_make hosts occurs rfl rfl ready).bind fun _ made _ ready known => ?_
      have holds := Value.within_closure.mpr known
      refine (Recorder.keeps_define scope name holds ready).bind fun _ after extended ready _ => ?_
      exact Recorder.keeps_pure ready (extended.within holds)
  | lambda location parameters body =>
      refine .announced (fun _ => rfl) ready fun begun extended ready => ?_
      replace hosts := hosts.later extended.scopes
      refine (Recorder.keeps_make hosts occurs rfl rfl ready).bind fun _ made _ ready known => ?_
      exact Recorder.keeps_pure ready (Value.within_closure.mpr known)
  | quote location form =>
      refine .announced (fun _ => rfl) ready fun after _ ready => ?_
      exact Recorder.keeps_pure ready (quoted_value_within _ form)
  | plain value => exact Recorder.keeps_lift (quiet_fault _) ready fun _ _ => False.elim

theorem record_each_keeps (trusted : apply.Trusted programs) {recorder : Recorder}
    {occurrences : Nat → Occurrence} {scope : ScopeId} {index : Nat} (expressions : List Expr)
    (ready : recorder.Ready programs) (occurs : Occurs programs occurrences index expressions)
    (hosts : ∀ number, recorder.machine.scopes.Hosts programs scope (occurrences number)) :
    recorder.Keeps programs (recordEach tracing apply occurrences scope index expressions)
      Recorder.HoldsAll (fun _ => False) := by
  cases expressions with
  | nil => exact Recorder.keeps_pure ready fun _ member => by cases member
  | cons expression rest =>
      unfold recordEach
      refine (record_keeps trusted expression ready occurs.head (hosts index)).bind ?_
      intro value after extended ready holds
      refine (record_each_keeps trusted rest ready occurs.tail
        fun number => (hosts number).later extended.scopes).bind ?_
      intro values last extended ready hold
      exact Recorder.keeps_pure ready (List.forall_mem_cons.mpr ⟨extended.within holds, hold⟩)

end

theorem record_sequence_keeps (trusted : apply.Trusted programs) {recorder : Recorder}
    {occurrences : Nat → Occurrence} {scope : ScopeId} {index : Nat} {result : Value}
    {expressions : List Expr} (ready : recorder.Ready programs)
    (holds : Recorder.Holds result recorder)
    (occurs : Occurs programs occurrences index expressions)
    (hosts : ∀ number, recorder.machine.scopes.Hosts programs scope (occurrences number)) :
    recorder.Keeps programs
      (recordSequence tracing apply occurrences scope index result expressions)
      Recorder.Holds (fun _ => False) := by
  induction expressions generalizing recorder index result with
  | nil => exact Recorder.keeps_pure ready holds
  | cons expression rest ih =>
      unfold recordSequence
      refine (record_keeps tracing trusted expression ready occurs.head (hosts index)).bind ?_
      intro value after extended ready holds
      exact ih ready holds occurs.tail fun number => (hosts number).later extended.scopes

theorem record_closure_keeps (trusted : apply.Trusted programs) {recorder : Recorder}
    {closure : Closure} {arguments : List Value} (site : ScopeId)
    (ready : recorder.Ready programs) (known : recorder.Knows closure)
    (hold : Recorder.HoldsAll arguments recorder) :
    recorder.Keeps programs (recordClosure tracing apply closure arguments site) Recorder.Holds
      (Failure.AtCall site) := by
  unfold recordClosure
  refine .announced (fun _ => rfl) ready fun begun extended ready => ?_
  split_ifs
  · exact Recorder.keeps_throw ready rfl
  obtain ⟨here, origin⟩ := extended.knows closure known
  obtain ⟨-, expression, occurs, -, parts⟩ := ready.made closure here origin
  refine (Recorder.keeps_origin origin ready).bind ?_
  rintro _ _ - - ⟨rfl, rfl⟩
  refine (Recorder.keeps_make_scope origin ?_ ready).bind ?_
  · rintro ⟨name, value⟩ member
    exact extended.within (hold value (List.of_mem_zip member).2)
  intro scope entered _ ready hosts
  -- The body stands where the procedure was made, not where it is called.
  refine .bracket rfl (fun _ => rfl) rfl (fun _ => rfl) (fun _ same => same)
    (fun _ _ _ holds => holds) ready ?_
  intro inner _ _ scopes ready
  refine (record_sequence_keeps tracing trusted ready (Value.within_atom _ _) ?_ ?_).settled
  · intro offset part present
    rw [Nat.zero_add]
    exact Occurrence.inside_expression occurs (parts ▸ present)
  · intro number
    rw [scopes]
    exact hosts number

theorem record_back_keeps (trusted : apply.Trusted programs) {recorder : Recorder}
    {procedure : Value} {arguments : List Value} {site : ScopeId} {outer : List ScopeId}
    (ready : recorder.Ready programs) (inside : recorder.machine.sites = site :: outer)
    (holds : Recorder.Holds procedure recorder) (hold : Recorder.HoldsAll arguments recorder) :
    recorder.Keeps programs (recordBack apply procedure arguments) Recorder.Holds
      (Failure.AtCall site) := by
  unfold Recorder.Keeps
  rw [recordBack, ensures_bind, ensures_get, inside]
  exact trusted recorder procedure arguments site ready holds hold

/-- A dialogue is held with recorded procedures only. The condition is for all larger
sets of procedures, since what is asked for may make new ones. -/
theorem dialogue_record_keeps (trusted : apply.Trusted programs) {recorder : Recorder}
    {dialogue : Dialogue} {site : ScopeId} {outer : List ScopeId}
    (ready : recorder.Ready programs) (inside : recorder.machine.sites = site :: outer)
    (tame : ∀ holds : Closure → Prop, (∀ closure, recorder.Knows closure → holds closure) →
      dialogue.Tame holds) :
    recorder.Keeps programs (dialogue.record (recordBack apply))
      (fun reply after => reply.Within after.Knows) (Failure.AtCall site) := by
  induction dialogue generalizing recorder with
  | answer action =>
      cases tame recorder.Knows fun _ known => known with
      | answer quiet => exact Recorder.keeps_lift quiet ready fun _ _ within => within
  | ask procedure arguments next ih =>
      cases tame recorder.Knows fun _ known => known with
      | ask given passed _ =>
          refine (record_back_keeps trusted ready inside given passed).bind ?_
          intro value after extended ready holds
          refine ih value ready (extended.sites.trans inside) fun larger includes => ?_
          have known (closure : Closure) (old : recorder.Knows closure) : larger closure :=
            includes closure (extended.knows closure old)
          cases tame larger known with
          | ask _ _ rest => exact rest value (holds.mono includes)

/-- A fault inside a native function becomes a failure of the application that called
it; every other failure has its scope already. -/
theorem Recorder.Keeps.blame_native {Result : Type} {recorder : Recorder}
    {action : RecordM Result} {good : Result → Recorder → Prop} {site : ScopeId}
    (keeps : recorder.Keeps programs action good (Failure.AtCall site)) :
    recorder.Keeps programs (action.adaptExcept (blameNative site)) good
      (Failure.AtCall site) := by
  unfold Recorder.Keeps
  rw [ensures_adapt]
  refine Ensures.weaken keeps (fun _ _ kept => kept) ?_
  rintro failure after ⟨extended, sound, accounts⟩
  refine ⟨extended, sound, ?_⟩
  cases failure with
  | host cause =>
      cases accounts with
      | host free _ => exact .waits free rfl
      | waits _ awaited => exact awaited.elim
      | blamed _ _ _ scope _ => cases scope
  | _ => exact accounts

theorem record_native_keeps (trusted : apply.Trusted programs) {recorder : Recorder}
    (function : Native) {arguments : List Value} (site : ScopeId)
    (ready : recorder.Ready programs) (hold : Recorder.HoldsAll arguments recorder) :
    recorder.Keeps programs (recordNative tracing apply function arguments site) Recorder.Holds
      (Failure.AtCall site) := by
  unfold recordNative
  refine .announced (fun _ => rfl) ready fun begun extended ready => ?_
  have held : begun.Keeps programs
      (RecordM.insideNative site ((function.dialogue arguments).record (recordBack apply)))
      (fun reply after => reply.Within after.Knows) (Failure.AtCall site) := by
    refine .bracket rfl (fun _ => rfl) rfl (fun _ => rfl)
      (fun machine same => congrArg List.tail same) (fun _ _ _ within => within) ready ?_
    intro inner sites knows _ ready
    refine dialogue_record_keeps trusted ready sites fun larger includes => ?_
    refine function.dialogue_tame fun argument member => ?_
    rw [knows] at includes
    exact (extended.within (hold argument member)).mono includes
  refine held.blame_native.bind fun reply after _ ready within => ?_
  cases reply with
  | value answer => exact Recorder.keeps_pure ready within
  | «foreign» kind => exact Recorder.keeps_throw ready rfl

theorem record_within_trusted (limit : Nat) :
    (recordWithin tracing limit).Trusted programs := by
  induction limit with
  | zero =>
      intro recorder callee arguments site ready _ _
      exact Recorder.keeps_lift (quiet_fault _) ready fun _ _ => False.elim
  | succ limit ih =>
      intro recorder callee arguments site ready holds hold
      unfold recordWithin recordWith
      cases callee with
      | closure closure =>
          exact record_closure_keeps tracing ih site ready (Value.within_closure.mp holds) hold
      | native function => exact record_native_keeps tracing ih function site ready hold
      | _ =>
          refine (Recorder.keeps_text _ ready).bind fun _ after _ ready _ => ?_
          exact Recorder.keeps_throw ready rfl

end Evaluation

/-- A failure of the program was raised by the evaluation that is blamed for it. -/
def Recorder.Explains (recorder : Recorder) (run : Except RunError Value × Option Visit) : Prop :=
  ∀ failure scope, run.1 = .error (.failed failure) → failure.scope? = some scope →
    ∃ visit ∈ recorder.visits, run.2 = some visit ∧ visit.scope = scope ∧
      visit.expression.Raises failure

theorem Recorder.Accounts.explains {recorder : Recorder} {failure : Failure}
    (accounts : recorder.Accounts (fun _ => False) failure) (options : Options) :
    recorder.Explains (.error (.failed (failure.counted options)), recorder.culprit) := by
  rintro told scope same inside
  cases same
  -- Counting frames either keeps the failure or makes it one of the host.
  have kept : failure.counted options = failure ∨ (failure.counted options).scope? = none := by
    unfold Failure.counted
    split
    · split_ifs
      · exact .inr rfl
      · exact .inl rfl
    · exact .inl rfl
  rcases kept with kept | outside
  · rw [kept] at inside ⊢
    cases accounts with
    | host _ outside => cases outside.symm.trans inside
    | waits _ awaited => exact awaited.elim
    | blamed visit member culprit there raises =>
        cases there.symm.trans inside
        exact ⟨visit, member, culprit, rfl, raises⟩
  · cases outside.symm.trans inside

theorem parse_source_scope {source : String} {failure : Failure}
    (failed : parseSource source = .error (.failed failure)) : failure.scope? = none := by
  unfold parseSource at failed
  split at failed <;> cases failed <;> rfl

theorem record_run_sound {programs : List (List Expr)} {recorder : Recorder} (options : Options)
    {number : Nat} {source : String} (present : programs[number]? = some (programOf source))
    (sound : recorder.Sound programs) :
    recorder.Extends (recordRun options number source recorder).2 ∧
      (recordRun options number source recorder).2.Sound programs ∧
      (recordRun options number source recorder).2.Explains
        (recordRun options number source recorder).1 := by
  unfold recordRun
  split
  next error failed =>
    refine ⟨.refl recorder, sound, ?_⟩
    rintro failure scope same inside
    cases same
    cases (parse_source_scope failed).symm.trans inside
  next program parsed =>
    have isProgram : programOf source = program := by
      rw [programOf, parsed]
      rfl
    have occurs : Occurs programs (.form number) 0 program := by
      intro offset expression found
      rw [Nat.zero_add, Occurrence.expression?, present, isProgram]
      exact found
    have ready : Recorder.Ready programs { recorder with culprit := none } :=
      ⟨sound.congr rfl rfl rfl rfl, rfl⟩
    have kept := record_sequence_keeps options.traceExecution
      (record_within_trusted options.traceExecution recursionLimit) ready
      (Value.within_atom _ .nil) occurs fun index => sound.global number index
    unfold Recorder.Keeps Ensures at kept
    split at kept
    next value after outcome =>
      obtain ⟨extended, ready, -⟩ := kept
      rw [outcome]
      refine ⟨⟨extended.scopes, extended.sites, extended.knows, extended.visits⟩,
        ready.toSound, ?_⟩
      rintro failure scope same
      cases same
    next failure after outcome =>
      obtain ⟨extended, sound, accounts⟩ := kept
      rw [outcome]
      exact ⟨⟨extended.scopes, extended.sites, extended.knows, extended.visits⟩, sound,
        accounts.explains options⟩

theorem record_runs_sound {programs : List (List Expr)} {recorder : Recorder} (options : Options)
    {number : Nat} {sources : List String}
    (present : ∀ offset source, sources[offset]? = some source →
      programs[number + offset]? = some (programOf source))
    (sound : recorder.Sound programs) :
    recorder.Extends (recordRuns options number sources recorder).2 ∧
      (recordRuns options number sources recorder).2.Sound programs ∧
      ∀ run ∈ (recordRuns options number sources recorder).1,
        (recordRuns options number sources recorder).2.Explains run := by
  induction sources generalizing recorder number with
  | nil => exact ⟨.refl recorder, sound, fun _ member => by cases member⟩
  | cons source rest ih =>
      obtain ⟨extended, ran, explains⟩ :=
        record_run_sound options (present 0 source rfl) sound
      have later (offset : Nat) (other : String) (found : rest[offset]? = some other) :
          programs[number + 1 + offset]? = some (programOf other) := by
        have there := present (offset + 1) other found
        rwa [Nat.add_comm offset 1, ← Nat.add_assoc] at there
      obtain ⟨more, lastSound, others⟩ := ih later ran
      rw [recordRuns]
      refine ⟨extended.trans more, lastSound, List.forall_mem_cons.mpr ⟨?_, others⟩⟩
      intro failure scope failed inside
      obtain ⟨visit, member, rest⟩ := explains failure scope failed inside
      exact ⟨visit, more.visits visit member, rest⟩

theorem start_sound (programs : List (List Expr)) (functions : List Native) (files : FileSystem) :
    Recorder.Sound programs { machine := Machine.start functions files } where
  global := by
    intro program index
    refine ⟨Nat.zero_lt_one, ?_⟩
    rw [Scopes.stackTrace]
    rfl
  bound := by
    intro scope found present pair member
    have first : scope = 0 := Nat.lt_one_iff.mp (Scopes.get_lt present)
    subst first
    cases present
    rcases Bindings.mem_put_all member with native | none
    · obtain ⟨function, -, rfl⟩ := List.mem_map.mp native
      exact fun _ inside => by cases inside
    · cases none
  made := fun _ _ known => by cases known
  visited := fun _ member => by cases member
  announced := fun _ member => by cases member

/-- In every session, whatever its programs do and however they end: each evaluation is
one of an occurrence in the programs, and the stack trace it finds, then and for good,
is the nesting of that occurrence in the source. Evaluations that the execution trace
announces are among them. The stack trace of a failure is the nesting of the reference
or the application that raised it. -/
theorem stack_traces_are_static_nesting (options : Options) (watcher : Watcher)
    (files : FileSystem) (sources : List String) :
    let interpreter := Interpreter.start options watcher files
    let programs := sources.map programOf
    let recorded := recordRuns options 0 sources { machine := interpreter.machine }
    let (outcomes, last) := interpreter.runAll sources
    recorded.1.map Prod.fst = outcomes ∧ recorded.2.machine = last.machine ∧
      (∀ visit ∈ recorded.2.visits,
        visit.occurrence.expression? programs = some visit.expression ∧
          visit.trace = visit.occurrence.nesting programs ∧
          last.machine.scopes.stackTrace visit.scope = visit.occurrence.nesting programs) ∧
      (∀ shown ∈ last.machine.announced, ∃ visit ∈ recorded.2.visits,
        visit.expression = shown.1 ∧
          (visit.occurrence.nesting programs).head? = some shown.2) ∧
      ∀ failure culprit, (.error (.failed failure), culprit) ∈ recorded.1 →
        failure.scope?.isSome →
          ∃ visit ∈ recorded.2.visits, culprit = some visit ∧
            visit.expression.Raises failure ∧
            failure.stackTrace last.machine.scopes = visit.occurrence.nesting programs := by
  intro interpreter programs recorded
  have erased := @record_runs_erases interpreter { machine := interpreter.machine } rfl 0 sources
  have present (offset : Nat) (source : String) (found : sources[offset]? = some source) :
      programs[0 + offset]? = some (programOf source) := by
    rw [Nat.zero_add, List.getElem?_map, found]
    rfl
  obtain ⟨-, sound, explains⟩ :=
    record_runs_sound options present (start_sound programs Native.standard files)
  rw [erased]
  refine ⟨rfl, rfl, ?_, ?_, ?_⟩
  · intro visit member
    obtain ⟨hosts, occurs, trace⟩ := sound.visited visit member
    exact ⟨occurs, trace, hosts.trace⟩
  · intro shown member
    obtain ⟨visit, visited, same, head⟩ := sound.announced shown member
    obtain ⟨-, -, trace⟩ := sound.visited visit visited
    exact ⟨visit, visited, same, trace ▸ head⟩
  intro failure culprit member inside
  obtain ⟨scope, there⟩ := Option.isSome_iff_exists.mp inside
  obtain ⟨visit, visited, blamed, rfl, raises⟩ := explains _ member failure scope rfl there
  refine ⟨visit, visited, blamed, raises, ?_⟩
  rw [Failure.stackTrace, there]
  exact (sound.visited visit visited).1.trace

end Lisplet
