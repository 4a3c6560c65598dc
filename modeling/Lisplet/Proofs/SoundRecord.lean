import Lisplet.Proofs.Natives
import Lisplet.Proofs.Recorder
import Lisplet.Proofs.Scopes

/-!
# Sound records

A record is sound if every procedure, in whatever scope or list it is kept, is tied to
the occurrence that made it: the scope that the procedure captured has the nesting of
that occurrence for its stack trace. `Keeps` says that an action keeps the record
sound and that somebody is to blame for its failures. There is one rule for each way
to build a recorded action.
-/

namespace Lisplet

/-- The scope has the nesting of an occurrence for its stack trace. -/
structure Scopes.Hosts (programs : List (List Expr)) (scopes : Scopes) (scope : ScopeId)
    (here : Occurrence) : Prop where
  present : scope < scopes.size
  trace : scopes.stackTrace scope = here.nesting programs

theorem Scopes.Hosts.later {programs : List (List Expr)} {before after : Scopes}
    {permitted : ScopeId → String → Prop} {scope : ScopeId} {here : Occurrence}
    (hosts : before.Hosts programs scope here) (grows : before.Grows permitted after) :
    after.Hosts programs scope here where
  present := Nat.lt_of_lt_of_le hosts.present grows.size
  trace := (grows.stack_trace hosts.present).trans hosts.trace

theorem Scopes.Hosts.inside {programs : List (List Expr)} {scopes : Scopes} {scope : ScopeId}
    {here : Occurrence} {expression : Expr} (hosts : scopes.Hosts programs scope here)
    (occurs : here.expression? programs = some expression) (noBody : expression.bodyName? = none)
    (index : Nat) : scopes.Hosts programs scope (here.inside index) where
  present := hosts.present
  trace := by
    rw [hosts.trace, Occurrence.nesting, occurs, Option.bind_some, noBody]
    rfl

theorem Occurrence.inside_expression {programs : List (List Expr)} {here : Occurrence}
    {expression part : Expr} {index : Nat} (occurs : here.expression? programs = some expression)
    (isPart : expression.parts[index]? = some part) :
    (here.inside index).expression? programs = some part := by
  rw [expression?, occurs, Option.bind_some, isPart]

/-- A failure of an application that was made in a scope. -/
def Failure.AtCall (site : ScopeId) : Failure → Prop
  | .arityMismatch _ _ scope => scope = site
  | .native _ scope => scope = site
  | _ => False

/-- The expressions that raise a failure themselves: references to names that are not
bound, and applications. -/
def Expr.Raises : Expr → Failure → Prop
  | .reference _ name, .unbound missing _ => name = missing
  | .apply .., .arityMismatch .. => True
  | .apply .., .native .. => True
  | _, _ => False

namespace Recorder

def Knows (recorder : Recorder) (closure : Closure) : Prop :=
  ∃ here, recorder.origin closure = some here

/-- An evaluation with this expression and innermost location is recorded. -/
def Tells (recorder : Recorder) (shown : Expr × String) : Prop :=
  ∃ visit ∈ recorder.visits, visit.expression = shown.1 ∧ visit.trace.head? = some shown.2

structure Sound (programs : List (List Expr)) (recorder : Recorder) : Prop where
  global : ∀ program index,
    recorder.machine.scopes.Hosts programs globalScope (.form program index)
  /-- Whatever is bound holds recorded procedures only. -/
  bound : ∀ scope found, recorder.machine.scopes.get? scope = some found →
    ∀ pair ∈ found.bindings, pair.2.Within recorder.Knows
  /-- A procedure is the body it was made with, in a scope of that nesting. -/
  made : ∀ closure here, recorder.origin closure = some here →
    recorder.machine.scopes.Hosts programs closure.scope here ∧
      ∃ expression, here.expression? programs = some expression ∧
        expression.bodyName? = some closure.name ∧ expression.parts = closure.body
  visited : ∀ visit ∈ recorder.visits,
    recorder.machine.scopes.Hosts programs visit.scope visit.occurrence ∧
      visit.occurrence.expression? programs = some visit.expression ∧
      visit.trace = visit.occurrence.nesting programs
  announced : ∀ shown ∈ recorder.machine.announced, recorder.Tells shown

structure Ready (programs : List (List Expr)) (recorder : Recorder) : Prop
    extends recorder.Sound programs where
  blameless : recorder.culprit = none

structure Extends (before after : Recorder) : Prop where
  scopes : before.machine.scopes.Grows (fun _ _ => True) after.machine.scopes
  sites : after.machine.sites = before.machine.sites
  knows : ∀ closure, before.Knows closure → after.Knows closure
  visits : ∀ visit ∈ before.visits, visit ∈ after.visits

/-- A failure is one of the host, or awaits the evaluation that takes the blame, or
has found it. -/
inductive Accounts (recorder : Recorder) (pending : Failure → Prop) (failure : Failure) : Prop where
  | host (free : recorder.culprit = none) (outside : failure.scope? = none)
  | waits (free : recorder.culprit = none) (awaited : pending failure)
  | blamed (visit : Visit) (member : visit ∈ recorder.visits)
      (culprit : recorder.culprit = some visit) (scope : failure.scope? = some visit.scope)
      (raises : visit.expression.Raises failure)

variable {programs : List (List Expr)}

theorem Extends.refl (recorder : Recorder) : recorder.Extends recorder :=
  ⟨.refl _ _, rfl, fun _ known => known, fun _ member => member⟩

theorem Extends.trans {first second third : Recorder} (early : first.Extends second)
    (late : second.Extends third) : first.Extends third where
  scopes := early.scopes.trans late.scopes
  sites := late.sites.trans early.sites
  knows := fun closure known => late.knows closure (early.knows closure known)
  visits := fun visit member => late.visits visit (early.visits visit member)

theorem Extends.within {before after : Recorder} (extends_ : before.Extends after) {value : Value}
    (within : value.Within before.Knows) : value.Within after.Knows :=
  within.mono extends_.knows

theorem Sound.congr {recorder other : Recorder} (sound : recorder.Sound programs)
    (scopes : other.machine.scopes = recorder.machine.scopes)
    (announced : other.machine.announced = recorder.machine.announced)
    (origin : other.origin = recorder.origin) (visits : other.visits = recorder.visits) :
    other.Sound programs := by
  obtain ⟨global, bound, made, visited, told⟩ := sound
  have knows : other.Knows = recorder.Knows := by
    unfold Knows
    rw [origin]
  refine ⟨?_, ?_, ?_, ?_, ?_⟩
  · rwa [scopes]
  · rwa [scopes, knows]
  · rwa [scopes, origin]
  · rwa [scopes, visits]
  · unfold Tells
    rwa [announced, visits]

theorem Accounts.mono {recorder : Recorder} {pending awaited : Failure → Prop} {failure : Failure}
    (accounts : recorder.Accounts pending failure)
    (implies : pending failure → awaited failure) : recorder.Accounts awaited failure := by
  cases accounts with
  | host free outside => exact .host free outside
  | waits free early => exact .waits free (implies early)
  | blamed visit member culprit scope raises => exact .blamed visit member culprit scope raises

/-- The action keeps the record sound, and its failures are accounted for. -/
def Keeps {Result : Type} (programs : List (List Expr)) (recorder : Recorder)
    (action : RecordM Result) (good : Result → Recorder → Prop) (pending : Failure → Prop) : Prop :=
  Ensures action recorder
    (fun value after => recorder.Extends after ∧ after.Ready programs ∧ good value after)
    (fun failure after =>
      recorder.Extends after ∧ after.Sound programs ∧ after.Accounts pending failure)

section Rules

variable {Result Other : Type} {recorder : Recorder} {action : RecordM Result}
  {good better : Result → Recorder → Prop} {pending awaited : Failure → Prop}

theorem keeps_pure (ready : recorder.Ready programs) {value : Result} (fits : good value recorder) :
    recorder.Keeps programs (pure value) good pending :=
  ⟨.refl recorder, ready, fits⟩

theorem keeps_throw (ready : recorder.Ready programs) {failure : Failure}
    (awaits : pending failure) :
    recorder.Keeps programs (throw failure : RecordM Result) good pending :=
  ⟨.refl recorder, ready.toSound, .waits ready.blameless awaits⟩

theorem Keeps.weaken (keeps : recorder.Keeps programs action good pending)
    (implies : ∀ value after, good value after → better value after)
    (admits : ∀ failure, pending failure → awaited failure) :
    recorder.Keeps programs action better awaited := by
  refine Ensures.weaken keeps ?_ ?_
  · rintro value after ⟨extended, ready, fits⟩
    exact ⟨extended, ready, implies value after fits⟩
  · rintro failure after ⟨extended, sound, accounts⟩
    exact ⟨extended, sound, accounts.mono (admits failure)⟩

theorem Keeps.settled (keeps : recorder.Keeps programs action good (fun _ => False)) :
    recorder.Keeps programs action good pending :=
  keeps.weaken (fun _ _ fits => fits) fun _ => False.elim

theorem Keeps.bind {next : Result → RecordM Other} {final : Other → Recorder → Prop}
    (first : recorder.Keeps programs action good pending)
    (second : ∀ value after, recorder.Extends after → after.Ready programs → good value after →
      after.Keeps programs (next value) final pending) :
    recorder.Keeps programs (action >>= next) final pending := by
  unfold Keeps
  rw [ensures_bind]
  refine Ensures.weaken first ?_ fun _ _ failed => failed
  rintro value middle ⟨extended, ready, fits⟩
  refine Ensures.weaken (second value middle extended ready fits) ?_ ?_
  · rintro result after ⟨more, rest⟩
    exact ⟨extended.trans more, rest⟩
  · rintro failure after ⟨more, rest⟩
    exact ⟨extended.trans more, rest⟩

theorem keeps_lift {property : Result → Prop} {action : EvalM Result}
    (quiet : Quiet property action) (ready : recorder.Ready programs)
    (fits : ∀ value machine, property value → good value { recorder with machine }) :
    recorder.Keeps programs (RecordM.lift action) good pending := by
  have kept (machine : Machine) (control : recorder.machine.SameControl machine) :
      recorder.Extends { recorder with machine } ∧ Sound programs { recorder with machine } := by
    refine ⟨⟨?_, control.sites, fun _ known => known, fun _ member => member⟩,
      ready.toSound.congr control.scopes control.announced rfl rfl⟩
    dsimp only
    rw [control.scopes]
    exact .refl _ _
  unfold Keeps
  rw [RecordM.ensures_lift]
  refine (quiet recorder.machine).weaken ?_ ?_
  · rintro value machine ⟨control, has⟩
    obtain ⟨extended, sound⟩ := kept machine control
    exact ⟨extended, ⟨sound, ready.blameless⟩, fits value machine has⟩
  · rintro failure machine ⟨control, cause, rfl⟩
    obtain ⟨extended, sound⟩ := kept machine control
    exact ⟨extended, sound, .host ready.blameless rfl⟩

/-- An announcement keeps the record sound if the evaluation it tells of is recorded. -/
theorem Keeps.announcing {tracing : Bool} {step : Machine → TraceStep}
    {next : Unit → RecordM Result} (ready : recorder.Ready programs)
    (tells : ∀ shown, (step recorder.machine).visit? = some shown → recorder.Tells shown)
    (rest : ∀ after, recorder.Extends after → after.Ready programs →
      after.Keeps programs (next ()) good pending) :
    recorder.Keeps programs (RecordM.lift (EvalM.announce tracing step) >>= next) good pending := by
  have told : recorder.Keeps programs (RecordM.lift (EvalM.announce tracing step))
      (fun _ _ => True) pending := by
    unfold Keeps
    rw [RecordM.ensures_lift]
    refine (ensures_announce tracing step recorder.machine).weaken ?_ ?_
    · rintro - machine (rfl | ⟨text, rfl⟩)
      · exact ⟨.refl recorder, ready, trivial⟩
      · refine ⟨⟨.refl _ _, rfl, fun _ known => known, fun _ member => member⟩,
          ⟨⟨ready.global, ready.bound, ready.made, ready.visited, ?_⟩, ready.blameless⟩, trivial⟩
        intro shown member
        rw [Machine.announced_push] at member
        rcases List.mem_append.mp member with early | new
        · exact ready.announced shown early
        · exact tells shown (Option.mem_toList.mp new)
    · rintro failure machine ⟨rfl, cause, rfl⟩
      exact ⟨.refl recorder, ready.toSound, .host ready.blameless rfl⟩
  exact told.bind fun _ after extended ready _ => rest after extended ready

theorem Keeps.announced {tracing : Bool} {step : Machine → TraceStep} {next : Unit → RecordM Result}
    (silent : ∀ machine, (step machine).visit? = none) (ready : recorder.Ready programs)
    (rest : ∀ after, recorder.Extends after → after.Ready programs →
      after.Keeps programs (next ()) good pending) :
    recorder.Keeps programs (RecordM.lift (EvalM.announce tracing step) >>= next) good pending := by
  refine .announcing ready (fun shown same => ?_) rest
  rw [silent] at same
  cases same

theorem keeps_text (result : Except Unwritable Result) (ready : recorder.Ready programs) :
    recorder.Keeps programs (RecordM.lift (EvalM.ofText result)) (fun _ _ => True) pending :=
  keeps_lift (quiet_of_text result) ready fun _ _ _ => trivial

theorem keeps_load (scope : ScopeId) (name : String) (ready : recorder.Ready programs) :
    recorder.Keeps programs (RecordM.lift (loadBinding scope name))
      (fun value after => value.Within after.Knows) (· = .unbound name scope) := by
  unfold Keeps
  rw [RecordM.ensures_lift, loadBinding, ensures_bind, ensures_get]
  cases looked : recorder.machine.scopes.lookup? scope name with
  | none => exact ⟨.refl recorder, ready.toSound, .waits ready.blameless rfl⟩
  | some value =>
      obtain ⟨holder, found, present, member⟩ := Scopes.bound_of_lookup looked
      exact ⟨.refl recorder, ready, ready.bound holder found present _ member⟩

theorem Sound.with_scopes (sound : recorder.Sound programs) {scopes : Scopes}
    {permitted : ScopeId → String → Prop} (grows : recorder.machine.scopes.Grows permitted scopes)
    (bound : ∀ scope found, scopes.get? scope = some found →
      ∀ pair ∈ found.bindings, pair.2.Within recorder.Knows) :
    Sound programs { recorder with machine := { recorder.machine with scopes } } where
  global := fun program index => (sound.global program index).later grows
  bound := bound
  made := fun closure here known =>
    let ⟨hosts, occurs⟩ := sound.made closure here known
    ⟨hosts.later grows, occurs⟩
  visited := fun visit member =>
    let ⟨hosts, occurs⟩ := sound.visited visit member
    ⟨hosts.later grows, occurs⟩
  announced := sound.announced

theorem keeps_define (scope : ScopeId) (name : String) {value : Value}
    (within : value.Within recorder.Knows) (ready : recorder.Ready programs) :
    recorder.Keeps programs (RecordM.lift (EvalM.define scope name value)) (fun _ _ => True)
      pending := by
  have grows : recorder.machine.scopes.Grows (fun _ _ => True)
      (recorder.machine.scopes.define scope name value) := .define _ _ _ _ trivial
  unfold Keeps
  rw [RecordM.ensures_lift, EvalM.define, ensures_modify]
  refine ⟨⟨grows, rfl, fun _ known => known, fun _ member => member⟩,
    ⟨ready.toSound.with_scopes grows ?_, ready.blameless⟩, trivial⟩
  intro other found present pair member
  obtain ⟨old, there, -, binds⟩ := Scopes.get_define_cases present
  rcases binds pair member with rfl | earlier
  · exact within
  · exact ready.bound other old there pair earlier

theorem keeps_make_scope {closure : Closure} {here : Occurrence} {added : List (String × Value)}
    (known : recorder.origin closure = some here)
    (within : ∀ pair ∈ added, pair.2.Within recorder.Knows) (ready : recorder.Ready programs) :
    recorder.Keeps programs (RecordM.lift (EvalM.makeScope closure.scope closure.name added))
      (fun scope after =>
        ∀ index, after.machine.scopes.Hosts programs scope (here.inside index)) pending := by
  obtain ⟨hosts, expression, occurs, body, -⟩ := ready.made closure here known
  have grows : recorder.machine.scopes.Grows (fun _ _ => True)
      (recorder.machine.scopes.make (some closure.scope) closure.name added) :=
    Scopes.Grows.mono (.make _ _ _ _ (.refl (fun _ _ => _ ∧ True) _)) fun _ _ _ => trivial
  unfold Keeps
  rw [RecordM.ensures_lift, EvalM.makeScope, ensures_modify_get]
  refine ⟨⟨grows, rfl, fun _ same => same, fun _ member => member⟩,
    ⟨ready.toSound.with_scopes grows ?_, ready.blameless⟩, ?_⟩
  · -- The new scope holds the arguments, and the old ones are as they were.
    intro scope found present pair member
    rcases Scopes.get_make_cases present with there | ⟨rfl, rfl⟩
    · exact ready.bound scope found there pair member
    · rcases Bindings.mem_put_all member with fresh | none
      · exact within pair fresh
      · cases none
  · intro index
    refine ⟨?_, ?_⟩
    · dsimp only
      rw [Scopes.size_make]
      exact Nat.lt_succ_self _
    · dsimp only
      rw [Scopes.stackTrace, Scopes.get_make_new]
      dsimp only
      rw [if_pos hosts.present, grows.stack_trace hosts.present, hosts.trace, Occurrence.nesting,
        occurs, Option.bind_some, body]
      rfl

theorem keeps_make {closure : Closure} {here : Occurrence} {expression : Expr}
    (hosts : recorder.machine.scopes.Hosts programs closure.scope here)
    (occurs : here.expression? programs = some expression)
    (body : expression.bodyName? = some closure.name) (parts : expression.parts = closure.body)
    (ready : recorder.Ready programs) :
    recorder.Keeps programs (RecordM.make closure here) (fun _ after => after.Knows closure)
      pending := by
  have knows (other : Closure) (known : recorder.Knows other) :
      (recorder.made closure here).Knows other := by
    unfold Knows made
    dsimp only
    split_ifs
    · exact ⟨here, rfl⟩
    · exact known
  unfold Keeps
  rw [RecordM.make, ensures_modify]
  refine ⟨⟨.refl _ _, rfl, knows, fun _ member => member⟩,
    ⟨⟨ready.global, ?_, ?_, ready.visited, ready.announced⟩, ready.blameless⟩, ?_⟩
  · exact fun scope found present pair member =>
      (ready.bound scope found present pair member).mono knows
  · intro other place origin
    unfold made at origin
    dsimp only at origin
    split_ifs at origin with same
    · cases origin
      subst same
      exact ⟨hosts, expression, occurs, body, parts⟩
    · exact ready.made other place origin
  · exact ⟨here, if_pos rfl⟩

theorem keeps_origin {closure : Closure} {here : Occurrence}
    (known : recorder.origin closure = some here) (ready : recorder.Ready programs) :
    recorder.Keeps programs (RecordM.originOf closure)
      (fun found after => found = here ∧ after = recorder) pending := by
  unfold Keeps
  rw [RecordM.originOf, ensures_bind, ensures_get, ensures_pure, known]
  exact ⟨.refl recorder, ready, rfl, rfl⟩

/-- The evaluation of an occurrence takes the blame for failures that its expression
raises and nobody further in did. -/
theorem Keeps.visiting {here : Occurrence} {expression : Expr} {scope : ScopeId}
    (ready : recorder.Ready programs) (occurs : here.expression? programs = some expression)
    (hosts : recorder.machine.scopes.Hosts programs scope here)
    (raised : ∀ failure, pending failure →
      failure.scope? = some scope ∧ expression.Raises failure)
    (keeps : ∀ inner : Recorder, recorder.Extends inner → inner.Ready programs →
      inner.Tells (expression, inner.machine.scopes.location scope) →
      inner.Keeps programs action good pending) :
    recorder.Keeps programs (RecordM.visiting here expression scope action) good
      (fun _ => False) := by
  unfold Keeps
  rw [RecordM.ensures_visiting]
  have entered : recorder.Extends { recorder with
      visits := ⟨here, expression, scope, recorder.machine.scopes.stackTrace scope⟩ ::
        recorder.visits } :=
    ⟨.refl _ _, rfl, fun _ known => known, fun _ => List.mem_cons_of_mem _⟩
  refine Ensures.weaken (keeps _ entered ⟨⟨ready.global, ready.bound, ready.made, ?_, ?_⟩,
    ready.blameless⟩ ?_) ?_ ?_
  · exact List.forall_mem_cons.mpr ⟨⟨hosts, occurs, hosts.trace⟩, ready.visited⟩
  · intro shown member
    obtain ⟨visit, earlier, same⟩ := ready.announced shown member
    exact ⟨visit, List.mem_cons_of_mem _ earlier, same⟩
  · exact ⟨_, List.mem_cons_self, rfl, Scopes.stack_trace_head hosts.present⟩
  · rintro value after ⟨extended, rest⟩
    exact ⟨entered.trans extended, rest⟩
  · rintro failure after ⟨extended, sound, accounts⟩
    have own := extended.visits _ List.mem_cons_self
    unfold Recorder.blame
    -- Only a failure that nobody is blamed for yet is this evaluation's own.
    cases accounts with
    | host free outside =>
        rw [outside, free]
        exact ⟨entered.trans extended, sound, .host free outside⟩
    | waits free awaited =>
        obtain ⟨there, raises⟩ := raised failure awaited
        rw [there, free]
        refine ⟨⟨(entered.trans extended).scopes, (entered.trans extended).sites,
          (entered.trans extended).knows, (entered.trans extended).visits⟩,
          sound.congr rfl rfl rfl rfl, .blamed _ own rfl there raises⟩
    | blamed visit member culprit there raises =>
        rw [there, culprit]
        exact ⟨entered.trans extended, sound, .blamed visit member culprit there raises⟩

theorem Keeps.bracket {enter leave : Machine → Machine}
    (entered : (enter recorder.machine).scopes = recorder.machine.scopes)
    (left : ∀ machine, (leave machine).scopes = machine.scopes)
    (begun : (enter recorder.machine).announced = recorder.machine.announced)
    (ended : ∀ machine, (leave machine).announced = machine.announced)
    (sites : ∀ machine, machine.sites = (enter recorder.machine).sites →
      (leave machine).sites = recorder.machine.sites)
    (stable : ∀ value after machine, good value after → good value { after with machine })
    (ready : recorder.Ready programs)
    (keeps : ∀ inner : Recorder, inner.machine.sites = (enter recorder.machine).sites →
      inner.Knows = recorder.Knows → inner.machine.scopes = recorder.machine.scopes →
      inner.Ready programs → inner.Keeps programs action good pending) :
    recorder.Keeps programs (RecordM.bracket enter leave action) good pending := by
  unfold Keeps
  rw [RecordM.ensures_bracket]
  have finish (after : Recorder)
      (extended : Extends { recorder with machine := enter recorder.machine } after) :
      recorder.Extends { after with machine := leave after.machine } := by
    refine ⟨?_, sites _ extended.sites, extended.knows, extended.visits⟩
    have grown := extended.scopes
    dsimp only at grown ⊢
    rwa [left, ← entered]
  refine Ensures.weaken (keeps { recorder with machine := enter recorder.machine } rfl rfl entered
    ⟨ready.toSound.congr entered begun rfl rfl, ready.blameless⟩) ?_ ?_
  · rintro value after ⟨extended, ready, fits⟩
    exact ⟨finish after extended,
      ⟨ready.toSound.congr (left _) (ended _) rfl rfl, ready.blameless⟩, stable value after _ fits⟩
  · rintro failure after ⟨extended, sound, accounts⟩
    refine ⟨finish after extended, sound.congr (left _) (ended _) rfl rfl, ?_⟩
    cases accounts with
    | host free outside => exact .host free outside
    | waits free awaited => exact .waits free awaited
    | blamed visit member culprit there raises => exact .blamed visit member culprit there raises

end Rules

def Holds (value : Value) (recorder : Recorder) : Prop :=
  value.Within recorder.Knows

def HoldsAll (values : List Value) (recorder : Recorder) : Prop :=
  ∀ value ∈ values, value.Within recorder.Knows

end Recorder

end Lisplet
