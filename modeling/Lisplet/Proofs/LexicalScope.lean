import Lisplet.Interpreter.Report
import Lisplet.Proofs.Frame
import Lisplet.Proofs.LikeNatives

/-!
# Scoping is lexical

A call sees the scopes that can be reached from the procedure and its arguments. What
is bound in any other scope, that of the caller included, has no influence on it: two
machines that differ in such bindings only give the same outcome, and go on differing
in them only.
-/

namespace Lisplet

/-- Scopes that can be reached from values: those their closures were made in, the
parents of such scopes, and what can be reached from values bound there. -/
inductive Scopes.Reaches (scopes : Scopes) (values : List Value) : ScopeId → Prop where
  | captured {closure : Closure} (held : closure ∈ Value.closuresOf values) :
      Reaches scopes values closure.scope
  | parent {scope outer : ScopeId} {found : Scope} (inner : Reaches scopes values scope)
      (present : scopes.get? scope = some found) (inside : found.parent = some outer) :
      Reaches scopes values outer
  | bound {scope : ScopeId} {found : Scope} {pair : String × Value} {closure : Closure}
      (holder : Reaches scopes values scope) (present : scopes.get? scope = some found)
      (binds : pair ∈ found.bindings) (held : closure ∈ pair.2.closures) :
      Reaches scopes values closure.scope

/-- Scopes that exist but cannot be reached from the values. -/
def Scopes.Hidden (scopes : Scopes) (values : List Value) (scope : ScopeId) : Prop :=
  scope < scopes.size ∧ ¬scopes.Reaches values scope

/-- Scopes that are the same but for what is bound in hidden ones. -/
structure Scopes.SameBut (hidden : ScopeId → Prop) (first second : Scopes) : Prop where
  size : second.size = first.size
  kept : ∀ scope found, first.get? scope = some found →
    ∃ bindings, second.get? scope = some { found with bindings } ∧
      (¬hidden scope → bindings = found.bindings)

structure Machine.SameBut (hidden : ScopeId → Prop) (first second : Machine) : Prop where
  scopes : first.scopes.SameBut hidden second.scopes
  others : second = { first with scopes := second.scopes }

/-- The same value or the same failure, in machines that are the same but for what is
bound in hidden scopes. -/
inductive SameOutcome (hidden : ScopeId → Prop) :
    EStateM.Result Failure Machine Value → EStateM.Result Failure Machine Value → Prop where
  | returned (value : Value) {first second : Machine} (same : first.SameBut hidden second) :
      SameOutcome hidden (.ok value first) (.ok value second)
  | failed (failure : Failure) {first second : Machine} (same : first.SameBut hidden second) :
      SameOutcome hidden (.error failure first) (.error failure second)

namespace Scopes

namespace SameBut

variable {hidden : ScopeId → Prop} {first second : Scopes}

theorem absent (same : first.SameBut hidden second) {scope : ScopeId}
    (missing : first.get? scope = none) : second.get? scope = none := by
  cases present : second.get? scope with
  | none => rfl
  | some found =>
      have bound := get_lt present
      rw [same.size] at bound
      obtain ⟨other, here⟩ := get_of_lt bound
      rw [missing] at here
      cases here

theorem seen (same : first.SameBut hidden second) {scope : ScopeId} (near : ¬hidden scope) :
    second.get? scope = first.get? scope := by
  cases present : first.get? scope with
  | none => exact same.absent present
  | some found =>
      obtain ⟨bindings, there, agrees⟩ := same.kept scope found present
      rw [there, agrees near]

theorem location_eq (same : first.SameBut hidden second) (scope : ScopeId) :
    second.location scope = first.location scope := by
  unfold location
  cases present : first.get? scope with
  | none => rw [same.absent present]
  | some found =>
      obtain ⟨bindings, there, -⟩ := same.kept scope found present
      rw [there]
      rfl

theorem stack_trace_eq (same : first.SameBut hidden second) (scope : ScopeId) :
    second.stackTrace scope = first.stackTrace scope := by
  induction scope using Nat.strongRecOn with
  | ind scope ih =>
      rw [stackTrace, stackTrace]
      cases present : first.get? scope with
      | none => rw [same.absent present]
      | some found =>
          obtain ⟨bindings, there, -⟩ := same.kept scope found present
          rw [there]
          dsimp only
          cases found.parent with
          | none => rfl
          | some parent =>
              dsimp only
              split_ifs with earlier
              · rw [ih parent earlier]
              · rfl

end SameBut

/-- Scopes that agree but for hidden ones, and lead from no other scope to a hidden
one. Hidden scopes are old: a scope that is made is not among them. -/
structure Screened (hidden : ScopeId → Prop) (first second : Scopes) : Prop
    extends first.SameBut hidden second where
  old : ∀ scope, hidden scope → scope < first.size
  parents : ∀ scope found, first.get? scope = some found → ¬hidden scope →
    ∀ outer, found.parent = some outer → ¬hidden outer
  values : ∀ scope found, first.get? scope = some found → ¬hidden scope →
    ∀ pair ∈ found.bindings, pair.2.Within fun closure => ¬hidden closure.scope

namespace Screened

variable {hidden : ScopeId → Prop} {first second : Scopes}

theorem lookup_eq (screened : first.Screened hidden second) {scope : ScopeId}
    (near : ¬hidden scope) (name : String) :
    second.lookup? scope name = first.lookup? scope name := by
  induction scope using Nat.strongRecOn with
  | ind scope ih =>
      rw [lookup?, lookup?, screened.seen near]
      cases present : first.get? scope with
      | none => rfl
      | some found =>
          dsimp only
          cases found.bindings.get? name with
          | some value => rfl
          | none =>
              dsimp only
              cases inside : found.parent with
              | none => rfl
              | some outer =>
                  dsimp only
                  have nearer := screened.parents scope found present near outer inside
                  split_ifs with earlier
                  · rw [ih outer earlier nearer]
                  · rfl

theorem lookup_near (screened : first.Screened hidden second) {scope : ScopeId}
    (near : ¬hidden scope) {name : String} {value : Value}
    (looked : first.lookup? scope name = some value) :
    value.Within fun closure => ¬hidden closure.scope := by
  induction scope using Nat.strongRecOn with
  | ind scope ih =>
      rw [lookup?] at looked
      split at looked
      next => cases looked
      next found present =>
        split at looked
        next bound =>
          cases looked
          exact screened.values scope found present near _ (Bindings.mem_of_get bound)
        next =>
          split at looked
          next => cases looked
          next outer inside =>
            have nearer := screened.parents scope found present near outer inside
            split_ifs at looked with earlier
            exact ih outer earlier nearer looked

theorem define (screened : first.Screened hidden second) {scope : ScopeId}
    (near : ¬hidden scope) (name : String) {value : Value}
    (within : value.Within fun closure => ¬hidden closure.scope) :
    (first.define scope name value).Screened hidden (second.define scope name value) where
  size := by rw [size_define, size_define, screened.size]
  kept := by
    intro other found present
    rw [get_define] at present ⊢
    by_cases same : other = scope
    · subst same
      rw [if_pos rfl] at present ⊢
      rw [screened.seen near, present]
      exact ⟨_, rfl, fun _ => rfl⟩
    · rw [if_neg same] at present ⊢
      exact screened.kept other found present
  old := by
    rw [size_define]
    exact screened.old
  parents := by
    intro other found present away
    obtain ⟨before, here, placed, -⟩ := get_define_cases present
    rw [placed]
    exact screened.parents other before here away
  values := by
    intro other found present away pair member
    obtain ⟨before, here, -, binds⟩ := get_define_cases present
    rcases binds pair member with rfl | earlier
    · exact within
    · exact screened.values other before here away pair earlier

theorem make (screened : first.Screened hidden second) {parent : ScopeId}
    (near : ¬hidden parent) (location : String) {added : List (String × Value)}
    (within : ∀ pair ∈ added, pair.2.Within fun closure => ¬hidden closure.scope) :
    (first.make (some parent) location added).Screened hidden
      (second.make (some parent) location added) where
  size := by rw [size_make, size_make, screened.size]
  kept := by
    intro scope found present
    rcases get_make_cases present with earlier | ⟨rfl, rfl⟩
    · obtain ⟨bindings, there, agrees⟩ := screened.kept scope found earlier
      exact ⟨bindings, get_make_old there, agrees⟩
    · rw [← screened.size, get_make_new]
      exact ⟨_, rfl, fun _ => rfl⟩
  old := by
    intro scope away
    rw [size_make]
    exact Nat.lt_succ_of_lt (screened.old scope away)
  parents := by
    intro scope found present away
    rcases get_make_cases present with earlier | ⟨rfl, rfl⟩
    · exact screened.parents scope found earlier away
    · rintro _ ⟨⟩
      exact near
  values := by
    intro scope found present away
    rcases get_make_cases present with earlier | ⟨rfl, rfl⟩
    · exact screened.values scope found earlier away
    · intro pair member
      rcases Bindings.mem_put_all member with given | none
      · exact within pair given
      · cases none

end Screened

/-- Scopes that are hidden from values are screened from what those can reach. -/
theorem SameBut.screened {first second : Scopes} {values : List Value}
    (same : first.SameBut (first.Hidden values) second) :
    first.Screened (first.Hidden values) second where
  toSameBut := same
  old := fun _ away => away.1
  parents := by
    intro scope found present near outer inside away
    have reached : first.Reaches values scope := by
      by_contra unreached
      exact near ⟨get_lt present, unreached⟩
    exact away.2 (.parent reached present inside)
  values := by
    intro scope found present near pair binds closure held away
    have reached : first.Reaches values scope := by
      by_contra unreached
      exact near ⟨get_lt present, unreached⟩
    exact away.2 (.bound reached present binds held)

end Scopes

/-- Two evaluations in machines that differ in hidden scopes. -/
def ScopeLikeness.screened (hidden : ScopeId → Prop) : ScopeLikeness where
  move := id
  near := fun scope => ¬hidden scope
  scopes := Scopes.Screened hidden
  size_eq := fun screened => screened.size
  location_eq := fun screened => screened.location_eq
  lookup_eq := by
    intro first second scope screened near name
    rw [screened.lookup_eq near name, Value.map_relocate_id]
  lookup_near := fun screened near looked => screened.lookup_near near looked
  define := by
    intro first second scope value screened near within name
    rw [Value.relocate_id]
    exact screened.define near name within
  make := by
    intro first second parent added screened near within location
    rw [Bindings.relocate_id]
    exact screened.make near location within
  made_near := fun screened away => Nat.lt_irrefl _ (screened.old _ away)

namespace Machine.SameBut

variable {hidden : ScopeId → Prop} {first second : Machine}

theorem screened (same : first.SameBut hidden second)
    (scopes : first.scopes.Screened hidden second.scopes) (tracing : Bool) :
    ((ScopeLikeness.screened hidden).faithful tracing).Machines first second := by
  have others := same.others
  generalize second.scopes = changed at scopes others
  subst others
  have shown : first.events = first.events.map (Event.relocate id) :=
    (Event.map_relocate_id first.events).symm
  exact ⟨scopes, shown, rfl, rfl, fun _ => trivial, rfl, rfl, rfl, rfl⟩

theorem of_screened {tracing : Bool}
    (alike : ((ScopeLikeness.screened hidden).faithful tracing).Machines first second) :
    first.SameBut hidden second := by
  have shown : second.events = first.events.map (Event.relocate id) := alike.shown
  have others := alike.eq
  rw [shown, Event.map_relocate_id] at others
  exact ⟨alike.scopes.toSameBut, others⟩

theorem stack_trace_eq (same : first.SameBut hidden second) (failure : Failure) :
    failure.stackTrace second.scopes = failure.stackTrace first.scopes := by
  unfold Failure.stackTrace
  cases failure.scope? with
  | none => rfl
  | some scope => exact same.scopes.stack_trace_eq scope

theorem report_eq (same : first.SameBut hidden second) (failure : Failure) (options : Options) :
    failure.report options second.scopes = failure.report options first.scopes := by
  unfold Failure.report
  rw [same.stack_trace_eq failure]

end Machine.SameBut

/-- The site of a call matters to the blame for a wrong number of arguments only. -/
theorem apply_within_site (tracing : Bool) (limit : Nat) {closure : Closure}
    {arguments : List Value} (fits : arguments.length = closure.arity) (site other : ScopeId) :
    applyWithin tracing limit (.closure closure) arguments site =
      applyWithin tracing limit (.closure closure) arguments other := by
  cases limit with
  | zero => rfl
  | succ limit =>
      change callClosure _ _ _ _ _ = callClosure _ _ _ _ _
      unfold callClosure
      simp only [fits, ne_eq, not_true_eq_false, if_false]

theorem SameOutcome.after {hidden : ScopeId → Prop} {action other : EvalM Value}
    {first second : Machine} (same : SameOutcome hidden (action first) (other second)) :
    (action.after first).SameBut hidden (other.after second) := by
  unfold EvalM.after
  generalize action first = outcome at same ⊢
  generalize other second = echoed at same ⊢
  cases same with
  | returned value same => exact same
  | failed failure same => exact same

/-- A call gives the same outcome in machines that differ only in what is bound in
scopes out of its reach. -/
theorem apply_screened (tracing : Bool) (limit : Nat) {callee : Value} {arguments : List Value}
    (site : ScopeId) {first second : Machine}
    (same : first.SameBut (first.scopes.Hidden (callee :: arguments)) second) :
    SameOutcome (first.scopes.Hidden (callee :: arguments))
      (applyWithin tracing limit callee arguments site first)
      (applyWithin tracing limit callee arguments site second) := by
  let like := (ScopeLikeness.screened (first.scopes.Hidden (callee :: arguments))).faithful tracing
  -- What the call starts from is in reach by definition, and so is all it comes to.
  have known (value : Value) (member : value ∈ callee :: arguments) :
      value.Within like.Known := by
    intro closure held away
    exact away.2 (.captured (Value.mem_closures_of.mpr ⟨value, member, held⟩))
  have called : like.Values callee callee :=
    ⟨(Value.relocate_id callee).symm, known callee List.mem_cons_self⟩
  have given : like.Lists arguments arguments := by
    refine ⟨?_, fun value member => known value (List.mem_cons_of_mem _ member)⟩
    rw [← Value.relocate_all_eq_map]
    exact (Value.relocate_all_id arguments).symm
  have ends := like.apply_within_alike limit called given site first second
    (same.screened same.scopes.screened tracing)
  change like.Ends like.Values (applyWithin tracing limit callee arguments site first)
    (applyWithin tracing limit callee arguments site second) at ends
  generalize applyWithin tracing limit callee arguments site first = outcome at ends ⊢
  generalize applyWithin tracing limit callee arguments site second = echoed at ends ⊢
  cases ends with
  | @done value other after echoAfter moved machines =>
      obtain ⟨rfl, -⟩ := moved
      rw [show value.relocate like.move = value from Value.relocate_id value]
      exact .returned value (.of_screened machines)
  | @failed failure after echoAfter machines =>
      rw [show failure.relocate like.move = failure from Failure.relocate_id failure]
      exact .failed failure (.of_screened machines)
  | lost gone => exact gone.elim

/-- Calling a procedure with as many arguments as it takes gives the same outcome from
any two sites and in any two machines that differ only in what is bound in scopes that
cannot be reached from the procedure and the arguments. The outcomes are the same value
or the same failure, reported with the same stack trace, in machines that differ again
in nothing but those bindings; and every scope there was is as it was before. -/
theorem scoping_is_lexical (tracing : Bool) (limit : Nat) (closure : Closure)
    (arguments : List Value) (fits : arguments.length = closure.arity)
    (site otherSite : ScopeId) (first second : Machine)
    (same : first.SameBut (first.scopes.Hidden (.closure closure :: arguments)) second) :
    let call := applyWithin tracing limit (.closure closure) arguments site
    let otherCall := applyWithin tracing limit (.closure closure) arguments otherSite
    SameOutcome (first.scopes.Hidden (.closure closure :: arguments)) (call first)
        (otherCall second) ∧
      (∀ failure : Failure,
        failure.stackTrace (otherCall.after second).scopes =
            failure.stackTrace (call.after first).scopes ∧
          ∀ options, failure.report options (otherCall.after second).scopes =
            failure.report options (call.after first).scopes) ∧
      (∀ scope found, first.scopes.get? scope = some found →
        (call.after first).scopes.get? scope = some found) ∧
      ∀ scope found, second.scopes.get? scope = some found →
        (otherCall.after second).scopes.get? scope = some found := by
  intro call otherCall
  have moved : call = otherCall := apply_within_site tracing limit fits site otherSite
  have outcome : SameOutcome (first.scopes.Hidden (.closure closure :: arguments)) (call first)
      (otherCall second) := by
    rw [← moved]
    exact apply_screened tracing limit site same
  have untouched (place : ScopeId) (machine : Machine) (scope : ScopeId) (found : Scope)
      (present : machine.scopes.get? scope = some found) :
      ((applyWithin tracing limit (.closure closure) arguments place).after
        machine).scopes.get? scope = some found := by
    have grown := apply_within_untouching tracing limit (.closure closure) arguments place
    exact (grown.scopes_after machine).get_same present fun _ => not_false
  refine ⟨outcome, fun failure => ?_, untouched site first, untouched otherSite second⟩
  exact ⟨outcome.after.stack_trace_eq failure, outcome.after.report_eq failure⟩

/-- A global scope with one name, and a scope inside it that binds the name as well. -/
def shadowedMachine (text : String) : Machine where
  scopes := (Scopes.make {} none globalLocation [("x", .atom (.string "outer"))]).make
    (some 0) "caller" [("x", .atom (.string text))]

/-- What the procedure `f` of the global scope answers does not depend on what the name
means where it is called. -/
theorem scoping_is_lexical_shadowed :
    let procedure : Closure := ⟨0, "f", [], [.reference none "x"]⟩
    SameOutcome ((shadowedMachine "here").scopes.Hidden [.closure procedure])
      (applyWithin true 5 (.closure procedure) [] 1 (shadowedMachine "here"))
      (applyWithin true 5 (.closure procedure) [] 0 (shadowedMachine "there")) := by
  intro procedure
  have reached (scope : ScopeId)
      (reaches : (shadowedMachine "here").scopes.Reaches [.closure procedure] scope) :
      scope = 0 := by
    induction reaches with
    | captured held =>
        cases List.mem_singleton.mp held
        rfl
    | parent _ present inside ih =>
        subst ih
        cases present
        cases inside
    | bound _ present binds held ih =>
        subst ih
        cases present
        cases List.mem_singleton.mp binds
        cases held
  refine (scoping_is_lexical true 5 procedure [] rfl 1 0 (shadowedMachine "here")
    (shadowedMachine "there") ⟨⟨rfl, ?_⟩, rfl⟩).1
  intro scope found present
  rcases Scopes.get_make_cases present with earlier | ⟨rfl, rfl⟩
  · rcases Scopes.get_make_cases earlier with none | ⟨rfl, rfl⟩
    · cases none
    · exact ⟨_, rfl, fun _ => rfl⟩
  · refine ⟨_, rfl, fun near => absurd ⟨Scopes.get_lt present, fun reaches => ?_⟩ near⟩
    cases reached _ reaches

end Lisplet
