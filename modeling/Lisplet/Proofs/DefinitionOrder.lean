import Lisplet.Proofs.LexicalScope
import Lisplet.Proofs.SplitRuns

/-!
# The order of definitions

Procedures that are defined one after the other, under different names, may be defined in
any order. A definition looks at nothing that another one binds, so afterwards the scope
binds the same names to the same procedures and only lists them in another order. No
evaluation sees that order: names are looked up one by one.
-/

namespace Lisplet

/-- The same bindings in another order. Should a name occur more than once, the occurrence
that counts is the same. -/
structure Bindings.Reordered (first second : Bindings) : Prop where
  perm : first.Perm second
  same : ∀ name, second.get? name = first.get? name

namespace Bindings

theorem get_cons (binding : String × Value) (bindings : Bindings) (name : String) :
    get? (binding :: bindings) name =
      if binding.1 = name then some binding.2 else bindings.get? name := by
  unfold get?
  rw [List.lookup_cons]
  by_cases same : binding.1 = name
  · simp [same]
  · simp [same, beq_false_of_ne (Ne.symm same)]

/-- The binding of a name, as a list of at most one. -/
def bound (bindings : Bindings) (name : String) : Bindings :=
  (bindings.get? name).toList.map (name, ·)

theorem bound_append_put_perm (bindings : Bindings) (name : String) (value : Value) :
    (bindings.bound name ++ bindings.put name value).Perm ((name, value) :: bindings) := by
  induction bindings with
  | nil => exact .refl _
  | cons binding rest ih =>
      unfold put bound
      rw [get_cons]
      split_ifs with here
      · subst here
        exact .swap _ _ _
      · exact (List.perm_middle.trans (ih.cons binding)).trans (.swap _ _ _)

namespace Reordered

variable {first second third : Bindings}

theorem refl (bindings : Bindings) : bindings.Reordered bindings :=
  ⟨.refl _, fun _ => rfl⟩

theorem trans (before : first.Reordered second) (after : second.Reordered third) :
    first.Reordered third :=
  ⟨before.perm.trans after.perm, fun name => (after.same name).trans (before.same name)⟩

theorem put (reordered : first.Reordered second) (name : String) (value : Value) :
    Reordered (first.put name value) (second.put name value) where
  perm := by
    have bound : second.bound name = first.bound name := by
      unfold bound
      rw [reordered.same name]
    refine (List.perm_append_left_iff (first.bound name)).mp ?_
    calc
      (first.bound name ++ first.put name value).Perm ((name, value) :: first) :=
        bound_append_put_perm first name value
      List.Perm _ ((name, value) :: second) := reordered.perm.cons _
      List.Perm _ (first.bound name ++ second.put name value) := by
        rw [← bound]
        exact (bound_append_put_perm second name value).symm
  same := by
    intro other
    rw [get_put, get_put, reordered.same other]

end Reordered

theorem bound_append_put_put_perm (bindings : Bindings) {name other : String}
    (distinct : name ≠ other) (value added : Value) :
    (bindings.bound name ++ (bindings.bound other ++
      Bindings.put other added (bindings.put name value))).Perm
        ((other, added) :: (name, value) :: bindings) := by
  have kept : bindings.bound other = bound (bindings.put name value) other := by
    unfold bound
    rw [get_put, if_neg distinct.symm]
  rw [kept]
  calc
    List.Perm _ (bindings.bound name ++ (other, added) :: bindings.put name value) :=
      (bound_append_put_perm (bindings.put name value) other added).append_left _
    List.Perm _ ((other, added) :: (bindings.bound name ++ bindings.put name value)) :=
      List.perm_middle
    List.Perm _ ((other, added) :: (name, value) :: bindings) :=
      (bound_append_put_perm bindings name value).cons _

theorem reordered_put_swap (bindings : Bindings) {name other : String} (distinct : name ≠ other)
    (value added : Value) :
    Reordered (Bindings.put other added (bindings.put name value))
      (Bindings.put name value (bindings.put other added)) where
  perm := by
    refine (List.perm_append_left_iff (bindings.bound other)).mp
      ((List.perm_append_left_iff (bindings.bound name)).mp ?_)
    calc
      List.Perm _ ((other, added) :: (name, value) :: bindings) :=
        bound_append_put_put_perm bindings distinct value added
      List.Perm _ ((name, value) :: (other, added) :: bindings) := .swap _ _ _
      List.Perm _ (bindings.bound other ++ (bindings.bound name ++
          Bindings.put name value (bindings.put other added))) :=
        (bound_append_put_put_perm bindings distinct.symm added value).symm
      List.Perm _ (bindings.bound name ++ (bindings.bound other ++
          Bindings.put name value (bindings.put other added))) := by
        rw [← List.append_assoc, ← List.append_assoc]
        exact List.perm_append_comm.append_right _
  same := by
    intro looked
    simp only [get_put]
    split_ifs with here there
    · exact absurd (here.symm.trans there) distinct
    all_goals rfl

end Bindings

/-- Scopes that are the same but for the order of the bindings in one place. -/
structure Scopes.SameButOrder (place : ScopeId) (first second : Scopes) : Prop where
  size : second.size = first.size
  kept : ∀ scope found, first.get? scope = some found →
    ∃ bindings, second.get? scope = some { found with bindings } ∧
      found.bindings.Reordered bindings ∧ (scope ≠ place → bindings = found.bindings)

namespace Scopes.SameButOrder

variable {place : ScopeId} {first second third : Scopes}

theorem sameBut (same : first.SameButOrder place second) :
    first.SameBut (· = place) second where
  size := same.size
  kept := by
    intro scope found present
    obtain ⟨bindings, there, -, agrees⟩ := same.kept scope found present
    exact ⟨bindings, there, agrees⟩

theorem refl (place : ScopeId) (scopes : Scopes) : scopes.SameButOrder place scopes :=
  ⟨rfl, fun _ found present => ⟨found.bindings, present, .refl _, fun _ => rfl⟩⟩

theorem trans (before : first.SameButOrder place second) (after : second.SameButOrder place third) :
    first.SameButOrder place third where
  size := after.size.trans before.size
  kept := by
    intro scope found present
    obtain ⟨bindings, there, reordered, agrees⟩ := before.kept scope found present
    obtain ⟨others, beyond, again, follows⟩ := after.kept scope _ there
    exact ⟨others, beyond, reordered.trans again,
      fun elsewhere => (follows elsewhere).trans (agrees elsewhere)⟩

theorem lookup_eq (same : first.SameButOrder place second) (scope : ScopeId) (name : String) :
    second.lookup? scope name = first.lookup? scope name := by
  induction scope using Nat.strongRecOn with
  | ind scope ih =>
      rw [lookup?, lookup?]
      cases present : first.get? scope with
      | none => rw [same.sameBut.absent present]
      | some found =>
          obtain ⟨bindings, there, reordered, -⟩ := same.kept scope found present
          rw [there]
          dsimp only
          rw [reordered.same name]
          cases found.bindings.get? name with
          | some value => rfl
          | none =>
              dsimp only
              cases found.parent with
              | none => rfl
              | some outer =>
                  dsimp only
                  split_ifs with earlier
                  · rw [ih outer earlier]
                  · rfl

theorem define (same : first.SameButOrder place second) (scope : ScopeId) (name : String)
    (value : Value) :
    (first.define scope name value).SameButOrder place (second.define scope name value) where
  size := by rw [size_define, size_define, same.size]
  kept := by
    intro other found present
    rw [get_define] at present ⊢
    split_ifs at present ⊢ with here
    · obtain ⟨before, earlier, rfl⟩ := Option.map_eq_some_iff.mp present
      obtain ⟨bindings, there, reordered, agrees⟩ := same.kept other before earlier
      rw [there]
      refine ⟨_, rfl, reordered.put name value, fun elsewhere => ?_⟩
      rw [agrees elsewhere]
    · exact same.kept other found present

theorem make (same : first.SameButOrder place second) (parent : Option ScopeId)
    (location : String) (added : List (String × Value)) :
    (first.make parent location added).SameButOrder place
      (second.make parent location added) where
  size := by rw [size_make, size_make, same.size]
  kept := by
    intro scope found present
    rcases get_make_cases present with earlier | ⟨rfl, rfl⟩
    · obtain ⟨bindings, there, agrees⟩ := same.kept scope found earlier
      exact ⟨bindings, get_make_old there, agrees⟩
    · rw [← same.size, get_make_new]
      exact ⟨_, rfl, .refl _, fun _ => rfl⟩

theorem define_swap (place : ScopeId) (scopes : Scopes) {name other : String}
    (distinct : name ≠ other) (value added : Value) :
    ((scopes.define place name value).define place other added).SameButOrder place
      ((scopes.define place other added).define place name value) where
  size := by simp only [size_define]
  kept := by
    intro scope found present
    simp only [get_define] at present ⊢
    split_ifs at present ⊢ with here
    · obtain ⟨_, once, rfl⟩ := Option.map_eq_some_iff.mp present
      obtain ⟨before, earlier, rfl⟩ := Option.map_eq_some_iff.mp once
      rw [earlier]
      exact ⟨_, rfl, Bindings.reordered_put_swap before.bindings distinct value added,
        fun elsewhere => absurd here elsewhere⟩
    · exact ⟨_, present, .refl _, fun _ => rfl⟩

end Scopes.SameButOrder

/-- Two evaluations in machines that differ in the order of the bindings in one place. -/
def ScopeLikeness.reordered (place : ScopeId) : ScopeLikeness where
  move := id
  near := fun _ => True
  scopes := Scopes.SameButOrder place
  size_eq := fun same => same.size
  location_eq := fun same => same.sameBut.location_eq
  lookup_eq := by
    rintro first second scope same - name
    rw [same.lookup_eq scope name, Value.map_relocate_id]
  lookup_near := fun _ _ _ _ _ => trivial
  define := by
    rintro first second scope value same - - name
    rw [Value.relocate_id]
    exact same.define scope name value
  make := by
    rintro first second parent added same - - location
    rw [Bindings.relocate_id]
    exact same.make (some parent) location added
  made_near := fun _ => trivial

structure Machine.SameButOrder (place : ScopeId) (first second : Machine) : Prop where
  scopes : first.scopes.SameButOrder place second.scopes
  others : second = { first with scopes := second.scopes }

namespace Machine.SameButOrder

variable {place : ScopeId} {first second : Machine}

theorem alike (same : first.SameButOrder place second) (tracing : Bool) :
    ((ScopeLikeness.reordered place).faithful tracing).Machines first second := by
  obtain ⟨scopes, others⟩ := same
  generalize second.scopes = changed at scopes others
  subst others
  have shown : first.events = first.events.map (Event.relocate id) :=
    (Event.map_relocate_id first.events).symm
  exact ⟨scopes, shown, rfl, rfl, fun _ => trivial, rfl, rfl, rfl, rfl⟩

theorem of_alike {tracing : Bool}
    (alike : ((ScopeLikeness.reordered place).faithful tracing).Machines first second) :
    first.SameButOrder place second := by
  have shown : second.events = first.events.map (Event.relocate id) := alike.shown
  have others := alike.eq
  rw [shown, Event.map_relocate_id] at others
  exact ⟨alike.scopes, others⟩

theorem sameBut (same : first.SameButOrder place second) : first.SameBut (· = place) second :=
  ⟨same.scopes.sameBut, same.others⟩

end Machine.SameButOrder

structure Interpreter.SameButOrder (place : ScopeId) (first second : Interpreter) : Prop where
  machine : first.machine.SameButOrder place second.machine
  others : second = { first with machine := second.machine }

namespace Interpreter.SameButOrder

variable {place : ScopeId} {first second : Interpreter}

/-- What is shown at the end of a run does not depend on the bindings that it leaves. -/
theorem sight_eq (same : first.SameButOrder place second) {outcome other : Except RunError Value}
    (agree : other = outcome) : sight (other, second) = sight (outcome, first) := by
  subst agree
  obtain ⟨machine, others⟩ := same
  have report (failure : Failure) := machine.sameBut.report_eq failure first.options
  have traced (failure : Failure) := machine.sameBut.stack_trace_eq failure
  have changed := machine.others
  generalize second.machine.scopes = scopes at report traced changed
  rw [changed] at others
  subst others
  cases other with
  | ok value => rfl
  | error error =>
      cases error with
      | scan | parse => rfl
      | failed failure =>
          unfold sight
          dsimp only [RunError.text, RunError.stackTrace]
          rw [report, traced]
          rfl

/-- A program comes to the same, and leaves interpreters that again differ in the order of
bindings only. -/
theorem evaluate (same : first.SameButOrder place second) (scope : ScopeId)
    (program : List Expr) :
    (second.evaluate scope program).1 = (first.evaluate scope program).1 ∧
      (first.evaluate scope program).2.SameButOrder place (second.evaluate scope program).2 := by
  obtain ⟨same, others⟩ := same
  generalize second.machine = machine at same others
  subst others
  let like := (ScopeLikeness.reordered place).faithful first.options.traceExecution
  let action := evalSequence first.options.traceExecution first.applier scope .nil program
  have ends : like.Ends like.Values (action first.machine) (action machine) := by
    have near : like.near scope := trivial
    have alike := like.program_alike recursionLimit near program
    rw [show Expr.relocateAll like.move program = program from Expr.relocate_all_id program]
      at alike
    exact alike first.machine machine (same.alike _)
  change (perform { first with machine } action).1 = (first.perform action).1 ∧
    (first.perform action).2.SameButOrder place (perform { first with machine } action).2
  unfold perform
  dsimp only
  generalize action first.machine = outcome at ends ⊢
  generalize action machine = echoed at ends ⊢
  cases ends with
  | @done value other after echoAfter moved machines =>
      obtain ⟨rfl, -⟩ := moved
      rw [show value.relocate like.move = value from Value.relocate_id value]
      exact ⟨rfl, .of_alike machines, rfl⟩
  | @failed failure after echoAfter machines =>
      rw [show failure.relocate like.move = failure from Failure.relocate_id failure]
      exact ⟨rfl, .of_alike machines, rfl⟩
  | lost gone => exact gone.elim

end Interpreter.SameButOrder

def Expr.DefinesProcedure : Expr → Prop
  | .procedure .. => True
  | _ => False

/-- The scopes once a form that defines a procedure has been evaluated in one of them. -/
def Scopes.withProcedure (scope : ScopeId) (scopes : Scopes) : Expr → Scopes
  | .procedure _ name parameters body =>
      scopes.define scope name (.closure ⟨scope, name, parameters, body⟩)
  | _ => scopes

section Blocks

variable {scope : ScopeId}

theorem eval_defines_procedure (apply : Applier) {form : Expr} (defines : form.DefinesProcedure)
    (machine : Machine) :
    ∃ value, form.eval false apply scope machine =
      .ok value { machine with scopes := machine.scopes.withProcedure scope form } := by
  cases form with
  | procedure location name parameters body =>
      exact ⟨.closure ⟨scope, name, parameters, body⟩, rfl⟩
  | literal | reference | apply | branch | define | lambda | quote | plain => exact defines.elim

theorem eval_block (apply : Applier) {block : List Expr}
    (define : ∀ form ∈ block, form.DefinesProcedure) (result : Value) (machine : Machine) :
    ∃ value, evalSequence false apply scope result block machine =
      .ok value
        { machine with scopes := block.foldl (Scopes.withProcedure scope) machine.scopes } := by
  induction block generalizing result machine with
  | nil => exact ⟨result, rfl⟩
  | cons form block ih =>
      obtain ⟨value, defined⟩ :=
        eval_defines_procedure apply (define form List.mem_cons_self) machine
      obtain ⟨last, done⟩ := ih (fun other member => define other (List.mem_cons_of_mem _ member))
        value { machine with scopes := machine.scopes.withProcedure scope form }
      refine ⟨last, ?_⟩
      rw [evalSequence, EvalM.bind_run, defined]
      exact done

def Interpreter.defining (interpreter : Interpreter) (scope : ScopeId) (block : List Expr) :
    Interpreter :=
  { interpreter with
    machine := { interpreter.machine with
      scopes := block.foldl (Scopes.withProcedure scope) interpreter.machine.scopes } }

theorem evaluate_block (interpreter : Interpreter)
    (untraced : interpreter.options.traceExecution = false) {block rest : List Expr}
    (define : ∀ form ∈ block, form.DefinesProcedure) (nonempty : rest ≠ []) :
    interpreter.evaluate scope (block ++ rest) =
      (interpreter.defining scope block).evaluate scope rest := by
  obtain ⟨value, done⟩ := eval_block interpreter.applier define .nil interpreter.machine
  have begun : interpreter.evaluate scope block =
      (.ok value, interpreter.defining scope block) := by
    unfold Interpreter.evaluate Interpreter.perform
    rw [untraced, done]
    rfl
  rw [interpreter.evaluate_append scope block nonempty, begun]

theorem with_procedure_same {first second : Scopes} (same : first.SameButOrder scope second)
    (form : Expr) :
    (first.withProcedure scope form).SameButOrder scope (second.withProcedure scope form) := by
  cases form with
  | procedure location name parameters body => exact same.define scope name _
  | literal | reference | apply | branch | define | lambda | quote | plain => exact same

theorem with_procedures_same (block : List Expr) {first second : Scopes}
    (same : first.SameButOrder scope second) :
    (block.foldl (Scopes.withProcedure scope) first).SameButOrder scope
      (block.foldl (Scopes.withProcedure scope) second) := by
  induction block generalizing first second with
  | nil => exact same
  | cons form block ih => exact ih (with_procedure_same same form)

theorem with_procedure_swap (scopes : Scopes) {form other : Expr}
    (distinct : (form.definedNames ++ other.definedNames).Nodup) :
    ((scopes.withProcedure scope form).withProcedure scope other).SameButOrder scope
      ((scopes.withProcedure scope other).withProcedure scope form) := by
  cases form with
  | procedure location name parameters body =>
      cases other with
      | procedure =>
          have different := (List.nodup_cons.mp distinct).1
          exact .define_swap scope scopes (fun same => different (List.mem_singleton.mpr same)) _ _
      | literal | reference | apply | branch | define | lambda | quote | plain => exact .refl _ _
  | literal | reference | apply | branch | define | lambda | quote | plain => exact .refl _ _

theorem defined_names_of_eq (block : List Expr) :
    definedNamesOf block = block.flatMap Expr.definedNames := by
  induction block with
  | nil => rfl
  | cons form block ih => rw [definedNamesOf, List.flatMap_cons, ih]

/-- Procedures with different names leave the same bindings in whichever order they are
defined. -/
theorem with_procedures_perm {block other : List Expr} (reordered : block.Perm other)
    (distinct : (definedNamesOf block).Nodup) (scopes : Scopes) :
    (block.foldl (Scopes.withProcedure scope) scopes).SameButOrder scope
      (other.foldl (Scopes.withProcedure scope) scopes) := by
  induction reordered generalizing scopes with
  | nil => exact .refl scope scopes
  | cons form _ ih => exact ih (List.nodup_append.mp distinct).2.1 _
  | swap form next block =>
      unfold definedNamesOf definedNamesOf at distinct
      rw [← List.append_assoc] at distinct
      exact with_procedures_same block
        (with_procedure_swap scopes (List.nodup_append.mp distinct).1)
  | trans first _ before after =>
      refine (before distinct scopes).trans (after ?_ scopes)
      rw [defined_names_of_eq] at distinct ⊢
      exact (first.flatMap_right _).nodup distinct

end Blocks

/-- A program may begin with definitions of procedures, under different names, in any
order. Evaluated without a trace, in any state and scope, it comes to the same value or
the same failure, and shows the same from outside: text of the value, report and stack
trace, texts displayed and files. The interpreter is left in the same state as well, but
for the order in which the scope lists its bindings. -/
theorem definition_order_is_free (interpreter : Interpreter)
    (untraced : interpreter.options.traceExecution = false) (scope : ScopeId)
    {block reordered rest : List Expr} (define : ∀ form ∈ block, form.DefinesProcedure)
    (distinct : (definedNamesOf block).Nodup) (permuted : block.Perm reordered)
    (nonempty : rest ≠ []) :
    let first := interpreter.evaluate scope (block ++ rest)
    let second := interpreter.evaluate scope (reordered ++ rest)
    second.1 = first.1 ∧ sight second = sight first ∧ first.2.SameButOrder scope second.2 := by
  intro first second
  have same : (interpreter.defining scope block).SameButOrder scope
      (interpreter.defining scope reordered) :=
    ⟨⟨with_procedures_perm permuted distinct interpreter.machine.scopes, rfl⟩, rfl⟩
  have defined : ∀ form ∈ reordered, form.DefinesProcedure :=
    fun form member => define form (permuted.mem_iff.mpr member)
  have firstEq : first = (interpreter.defining scope block).evaluate scope rest :=
    evaluate_block interpreter untraced define nonempty
  have secondEq : second = (interpreter.defining scope reordered).evaluate scope rest :=
    evaluate_block interpreter untraced defined nonempty
  obtain ⟨outcome, left⟩ := same.evaluate scope rest
  rw [← firstEq, ← secondEq] at outcome left
  exact ⟨outcome, left.sight_eq outcome, left⟩

/-- A procedure that calls the other one where it is told to, and answers its own name
otherwise. -/
def playing (name other : String) : Expr :=
  .procedure none name ["more"]
    [.branch none (.reference none "more")
      (.apply none (.reference none other) [.literal none (.atom (.boolean false))])
      (.literal none (.atom (.string name)))]

/-- Two procedures that call each other can be defined either way round. -/
theorem definition_order_is_free_mutual :
    let interpreter := Interpreter.start {} (.buffer {}) {}
    let call : Expr :=
      .apply none (.reference none "ping") [.literal none (.atom (.boolean true))]
    let first := interpreter.evaluate globalScope
      ([playing "ping" "pong", playing "pong" "ping"] ++ [call])
    let second := interpreter.evaluate globalScope
      ([playing "pong" "ping", playing "ping" "pong"] ++ [call])
    sight second = sight first ∧ (sight first).value = some "\"pong\"" := by
  intro interpreter call first second
  have define : ∀ form ∈ [playing "ping" "pong", playing "pong" "ping"],
      form.DefinesProcedure := by
    simp [playing, Expr.DefinesProcedure]
  have same := definition_order_is_free interpreter rfl globalScope define (by decide)
    (.swap _ _ _) (List.cons_ne_nil call [])
  exact ⟨same.2.1, by decide +kernel⟩

end Lisplet
