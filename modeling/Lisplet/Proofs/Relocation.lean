import Lisplet.Eval.Basic
import Lisplet.Proofs.Scopes

/-!
# Moving source locations

A tree remembers where it stood in its source, and so do the procedures and the
quoted forms made from it. Relocation changes these places, wherever in a value or
in a machine they are kept. Neither descriptions nor comparisons look at them.
-/

namespace Lisplet

namespace Expr

mutual

def relocate (move : Location → Location) : Expr → Expr
  | .literal location value => .literal (location.map move) value
  | .reference location name => .reference (location.map move) name
  | .apply location callee arguments =>
      .apply (location.map move) (callee.relocate move) (relocateAll move arguments)
  | .branch location test consequent alternate =>
      .branch (location.map move) (test.relocate move) (consequent.relocate move)
        (alternate.relocate move)
  | .define location name value => .define (location.map move) name (value.relocate move)
  | .procedure location name parameters body =>
      .procedure (location.map move) name parameters (relocateAll move body)
  | .lambda location parameters body =>
      .lambda (location.map move) parameters (relocateAll move body)
  | .quote location form => .quote (location.map move) (form.relocate move)
  | .plain value => .plain value

def relocateAll (move : Location → Location) : List Expr → List Expr
  | [] => []
  | expression :: rest => expression.relocate move :: relocateAll move rest

end

variable (move : Location → Location)

theorem relocate_all_eq_map (expressions : List Expr) :
    relocateAll move expressions = expressions.map (relocate move) := by
  induction expressions with
  | nil => rfl
  | cons expression rest ih => rw [relocateAll, ih, List.map_cons]

mutual

theorem relocate_id (expression : Expr) : expression.relocate id = expression := by
  cases expression with
  | literal => simp only [relocate, Option.map_id_fun, id]
  | reference => simp only [relocate, Option.map_id_fun, id]
  | apply location callee arguments =>
      simp only [relocate, Option.map_id_fun, id, relocate_id callee, relocate_all_id arguments]
  | branch location test consequent alternate =>
      simp only [relocate, Option.map_id_fun, id, relocate_id test, relocate_id consequent,
        relocate_id alternate]
  | define location name value => simp only [relocate, Option.map_id_fun, id, relocate_id value]
  | procedure location name parameters body =>
      simp only [relocate, Option.map_id_fun, id, relocate_all_id body]
  | lambda location parameters body =>
      simp only [relocate, Option.map_id_fun, id, relocate_all_id body]
  | quote location form => simp only [relocate, Option.map_id_fun, id, relocate_id form]
  | plain => rfl

theorem relocate_all_id (expressions : List Expr) : relocateAll id expressions = expressions := by
  cases expressions with
  | nil => rfl
  | cons expression rest => rw [relocateAll, relocate_id expression, relocate_all_id rest]

end

mutual

theorem relocate_relocate (first second : Location → Location) (expression : Expr) :
    (expression.relocate first).relocate second = expression.relocate (second ∘ first) := by
  cases expression with
  | literal => simp only [relocate, Option.map_map]
  | reference => simp only [relocate, Option.map_map]
  | apply location callee arguments =>
      simp only [relocate, Option.map_map, relocate_relocate first second callee,
        relocate_all_relocate_all first second arguments]
  | branch location test consequent alternate =>
      simp only [relocate, Option.map_map, relocate_relocate first second test,
        relocate_relocate first second consequent, relocate_relocate first second alternate]
  | define location name value =>
      simp only [relocate, Option.map_map, relocate_relocate first second value]
  | procedure location name parameters body =>
      simp only [relocate, Option.map_map, relocate_all_relocate_all first second body]
  | lambda location parameters body =>
      simp only [relocate, Option.map_map, relocate_all_relocate_all first second body]
  | quote location form =>
      simp only [relocate, Option.map_map, relocate_relocate first second form]
  | plain => rfl

theorem relocate_all_relocate_all (first second : Location → Location)
    (expressions : List Expr) :
    relocateAll second (relocateAll first expressions) =
      relocateAll (second ∘ first) expressions := by
  cases expressions with
  | nil => rfl
  | cons expression rest =>
      simp only [relocateAll, relocate_relocate first second expression,
        relocate_all_relocate_all first second rest]

end

mutual

@[simp]
theorem describe_within_relocate (room : Nat) (expression : Expr) :
    (expression.relocate move).describeWithin room = expression.describeWithin room := by
  cases expression with
  | literal => rfl
  | reference => rfl
  | apply location callee arguments =>
      simp only [relocate, describeWithin, describe_within_relocate _ callee,
        describe_body_relocate _ arguments]
  | branch location test consequent alternate =>
      simp only [relocate, describeWithin, describe_within_relocate _ test,
        describe_within_relocate _ consequent, describe_within_relocate _ alternate]
  | define location name value =>
      simp only [relocate, describeWithin, describe_within_relocate _ value]
  | procedure location name parameters body =>
      simp only [relocate, describeWithin, describe_body_relocate _ body]
  | lambda location parameters body =>
      simp only [relocate, describeWithin, describe_body_relocate _ body]
  | quote location form =>
      simp only [relocate, describeWithin, describe_within_relocate _ form]
  | plain => rfl

theorem describe_body_relocate (room : Nat) (expressions : List Expr) :
    describeBodyWithin room (relocateAll move expressions) =
      describeBodyWithin room expressions := by
  cases expressions with
  | nil => rfl
  | cons expression rest =>
      simp only [relocateAll, describeBodyWithin, describe_within_relocate _ expression,
        describe_body_relocate _ rest]

end

@[simp]
theorem describe_relocate (expression : Expr) :
    (expression.relocate move).describe = expression.describe :=
  describe_within_relocate move nestingLimit expression

mutual

@[simp]
theorem same_relocate (room : Nat) (left right : Expr) :
    (left.relocate move).sameWithin room (right.relocate move) = left.sameWithin room right := by
  cases left with
  | apply location callee arguments =>
      cases right <;> simp only [relocate, sameWithin]
      next otherCallee others =>
        simp only [same_relocate _ callee otherCallee, same_all_relocate _ arguments others]
  | branch location test consequent alternate =>
      cases right <;> simp only [relocate, sameWithin]
      next otherTest otherConsequent otherAlternate =>
        simp only [same_relocate _ test otherTest, same_relocate _ consequent otherConsequent,
          same_relocate _ alternate otherAlternate]
  | define location name value =>
      cases right <;> simp only [relocate, sameWithin]
      next otherName otherValue => simp only [same_relocate _ value otherValue]
  | procedure location name parameters body =>
      cases right <;> simp only [relocate, sameWithin]
      next otherBody => simp only [same_all_relocate _ body otherBody]
  | lambda location parameters body =>
      cases right <;> simp only [relocate, sameWithin]
      next otherBody => simp only [same_all_relocate _ body otherBody]
  | quote location form =>
      cases right <;> simp only [relocate, sameWithin]
      next otherForm => simp only [same_relocate _ form otherForm]
  | _ => cases right <;> simp only [relocate, sameWithin]

theorem same_all_relocate (room : Nat) (lefts rights : List Expr) :
    sameAllWithin room (relocateAll move lefts) (relocateAll move rights) =
      sameAllWithin room lefts rights := by
  cases lefts with
  | nil => cases rights <;> rfl
  | cons left lefts =>
      cases rights with
      | nil => rfl
      | cons right rights =>
          simp only [relocateAll, sameAllWithin, same_relocate _ left right,
            same_all_relocate _ lefts rights]

end

end Expr

def Closure.relocate (move : Location → Location) (closure : Closure) : Closure :=
  { closure with body := Expr.relocateAll move closure.body }

namespace Value

mutual

def relocate (move : Location → Location) : Value → Value
  | .atom value => .atom value
  | .list items => .list (relocateAll move items)
  | .closure procedure => .closure (procedure.relocate move)
  | .native function => .native function
  | .form expression => .form (expression.relocate move)

def relocateAll (move : Location → Location) : List Value → List Value
  | [] => []
  | value :: rest => value.relocate move :: relocateAll move rest

end

variable (move : Location → Location)

theorem relocate_all_eq_map (values : List Value) :
    relocateAll move values = values.map (relocate move) := by
  induction values with
  | nil => rfl
  | cons value rest ih => rw [relocateAll, ih, List.map_cons]

@[simp]
theorem relocate_list (items : List Value) :
    (Value.list items).relocate move = .list (items.map (relocate move)) := by
  rw [relocate, relocate_all_eq_map]

@[simp]
theorem relocate_atom (value : Atom) : (Value.atom value).relocate move = .atom value := rfl

mutual

theorem relocate_id (value : Value) : value.relocate id = value := by
  cases value with
  | atom => rfl
  | list items => rw [relocate, relocate_all_id items]
  | closure procedure => simp only [relocate, Closure.relocate, Expr.relocate_all_id]
  | native => rfl
  | form expression => rw [relocate, Expr.relocate_id]

theorem relocate_all_id (values : List Value) : relocateAll id values = values := by
  cases values with
  | nil => rfl
  | cons value rest => rw [relocateAll, relocate_id value, relocate_all_id rest]

end

theorem map_relocate_id (found : Option Value) : found.map (relocate id) = found := by
  rw [show relocate id = id from funext relocate_id, Option.map_id_fun, id]

@[simp]
theorem kind_relocate (value : Value) : (value.relocate move).kind = value.kind := by
  cases value <;> rfl

@[simp]
theorem truthy_relocate (value : Value) : (value.relocate move).isTruthy = value.isTruthy := by
  cases value <;> rfl

mutual

@[simp]
theorem describe_within_relocate (room : Nat) (value : Value) :
    (value.relocate move).describeWithin room = value.describeWithin room := by
  cases value with
  | list items => simp only [relocate, describeWithin, describe_all_relocate _ items]
  | form expression => simp only [relocate, describeWithin, Expr.describe_within_relocate]
  | _ => rfl

theorem describe_all_relocate (room : Nat) (values : List Value) :
    describeAllWithin room (relocateAll move values) = describeAllWithin room values := by
  cases values with
  | nil => rfl
  | cons value rest =>
      simp only [relocateAll, describeAllWithin, describe_within_relocate _ value,
        describe_all_relocate _ rest]

end

@[simp]
theorem describe_relocate (value : Value) : (value.relocate move).describe = value.describe :=
  describe_within_relocate move nestingLimit value

mutual

@[simp]
theorem same_relocate (room : Nat) (left right : Value) :
    (left.relocate move).sameWithin room (right.relocate move) = left.sameWithin room right := by
  cases left with
  | list items =>
      cases right <;> simp only [relocate, sameWithin]
      next others => simp only [same_all_relocate _ items others]
  | closure procedure =>
      cases right <;> simp only [relocate, sameWithin]
      next other =>
        simp only [Closure.sameWithin, Closure.relocate, Expr.same_all_relocate]
  | form expression =>
      cases right <;> simp only [relocate, sameWithin]
      next other => rw [Expr.same_relocate]
  | _ => cases right <;> simp only [relocate, sameWithin]

theorem same_all_relocate (room : Nat) (lefts rights : List Value) :
    sameAllWithin room (relocateAll move lefts) (relocateAll move rights) =
      sameAllWithin room lefts rights := by
  cases lefts with
  | nil => cases rights <;> rfl
  | cons left lefts =>
      cases rights with
      | nil => rfl
      | cons right rights =>
          simp only [relocateAll, sameAllWithin, same_relocate _ left right,
            same_all_relocate _ lefts rights]

end

@[simp]
theorem display_text_relocate (value : Value) :
    (value.relocate move).displayText = value.displayText := by
  cases value with
  | atom value => rfl
  | list items => exact congrArg (some <$> ·) (describe_relocate move (.list items))
  | closure procedure => rfl
  | native function => rfl
  | form expression => exact congrArg (some <$> ·) (describe_relocate move (.form expression))

theorem display_texts_relocate (values : List Value) :
    displayTexts (values.map (relocate move)) = displayTexts values := by
  induction values with
  | nil => rfl
  | cons value rest ih =>
      simp only [List.map_cons, displayTexts, display_text_relocate, ih]

mutual

theorem relocate_of_datum (datum : Datum) : (ofDatum datum).relocate move = ofDatum datum := by
  cases datum with
  | atom => rfl
  | list items => rw [ofDatum, relocate, relocate_of_data items]

theorem relocate_of_data (items : List Datum) : relocateAll move (ofData items) = ofData items := by
  cases items with
  | nil => rfl
  | cons item rest =>
      rw [ofData, relocateAll, relocate_of_datum item, relocate_of_data rest]

end

end Value

theorem quoted_value_relocate (move : Location → Location) (form : Expr) :
    quotedValue (form.relocate move) = (quotedValue form).relocate move := by
  cases form with
  | literal location value => exact (Value.relocate_of_datum move value).symm
  | plain value => exact (Value.relocate_of_datum move value).symm
  | _ => rfl

namespace Bindings

def relocate (move : Location → Location) (bindings : Bindings) : Bindings :=
  bindings.map fun pair => (pair.1, pair.2.relocate move)

variable (move : Location → Location)

theorem get_relocate (bindings : Bindings) (name : String) :
    (bindings.relocate move).get? name = (bindings.get? name).map (Value.relocate move) := by
  induction bindings with
  | nil => rfl
  | cons pair rest ih =>
      unfold get? relocate at *
      rw [List.map_cons, List.lookup_cons, List.lookup_cons, ih]
      cases name == pair.1 <;> rfl

theorem put_relocate (bindings : Bindings) (name : String) (value : Value) :
    (bindings.relocate move).put name (value.relocate move) =
      (bindings.put name value).relocate move := by
  induction bindings with
  | nil => rfl
  | cons pair rest ih =>
      unfold relocate at *
      simp only [List.map_cons, put]
      split_ifs
      · rfl
      · rw [ih, List.map_cons]

theorem put_all_relocate (bindings : Bindings) (added : List (String × Value)) :
    (bindings.relocate move).putAll (Bindings.relocate move added) =
      (bindings.putAll added).relocate move := by
  induction added generalizing bindings with
  | nil => rfl
  | cons pair added ih =>
      have rest := ih (bindings.put pair.1 pair.2)
      rw [← put_relocate] at rest
      exact rest

theorem relocate_id (bindings : Bindings) : bindings.relocate id = bindings := by
  simp only [relocate, Value.relocate_id]
  exact List.map_id bindings

theorem relocate_zip (names : List String) (values : List Value) :
    Bindings.relocate move (names.zip values) = names.zip (values.map (Value.relocate move)) := by
  unfold relocate
  rw [List.zip_map_right]
  rfl

end Bindings

def Scope.relocate (move : Location → Location) (scope : Scope) : Scope :=
  { scope with bindings := scope.bindings.relocate move }

namespace Scopes

def relocate (move : Location → Location) (scopes : Scopes) : Scopes :=
  ⟨scopes.table.map (Scope.relocate move)⟩

variable (move : Location → Location)

theorem size_relocate (scopes : Scopes) : (scopes.relocate move).size = scopes.size := by
  simp [relocate, size]

theorem get_relocate (scopes : Scopes) (scope : ScopeId) :
    (scopes.relocate move).get? scope = (scopes.get? scope).map (Scope.relocate move) := by
  simp [relocate, get?]

theorem location_relocate (scopes : Scopes) (scope : ScopeId) :
    (scopes.relocate move).location scope = scopes.location scope := by
  rw [location, location, get_relocate, Option.map_map]
  rfl

theorem lookup_relocate (scopes : Scopes) (scope : ScopeId) (name : String) :
    (scopes.relocate move).lookup? scope name =
      (scopes.lookup? scope name).map (Value.relocate move) := by
  induction scope using Nat.strongRecOn with
  | ind scope ih =>
      rw [lookup?, lookup?, get_relocate]
      cases scopes.get? scope with
      | none => rfl
      | some found =>
          simp only [Option.map_some, Scope.relocate, Bindings.get_relocate]
          cases found.bindings.get? name with
          | some value => rfl
          | none =>
              simp only [Option.map_none]
              cases found.parent with
              | none => rfl
              | some parent =>
                  simp only
                  split_ifs with earlier
                  · exact ih parent earlier
                  · rfl

theorem stack_trace_relocate (scopes : Scopes) (scope : ScopeId) :
    (scopes.relocate move).stackTrace scope = scopes.stackTrace scope := by
  induction scope using Nat.strongRecOn with
  | ind scope ih =>
      rw [stackTrace, stackTrace, get_relocate]
      cases scopes.get? scope with
      | none => rfl
      | some found =>
          simp only [Option.map_some, Scope.relocate]
          cases found.parent with
          | none => rfl
          | some parent =>
              simp only
              split_ifs with earlier
              · rw [ih parent earlier]
              · rfl

theorem define_relocate (scopes : Scopes) (scope : ScopeId) (name : String) (value : Value) :
    (scopes.relocate move).define scope name (value.relocate move) =
      (scopes.define scope name value).relocate move := by
  apply ext_get
  intro other
  rw [get_define, get_relocate, get_relocate, get_define]
  split_ifs
  · cases scopes.get? other with
    | none => rfl
    | some found => simp only [Option.map_some, Scope.relocate, Bindings.put_relocate]
  · rfl

theorem make_relocate (scopes : Scopes) (parent : Option ScopeId) (location : String)
    (added : List (String × Value)) :
    (scopes.relocate move).make parent location (Bindings.relocate move added) =
      (scopes.make parent location added).relocate move := by
  have moved := Bindings.put_all_relocate move [] added
  simp only [make, relocate, Array.map_push, Scope.relocate, ← moved]
  rfl

end Scopes

namespace TraceStep

def relocate (move : Location → Location) : TraceStep → TraceStep
  | .visit expression location => .visit (expression.relocate move) location
  | .apply callee => .apply (callee.relocate move)
  | .bound name value => .bound name (value.relocate move)
  | .quote form => .quote (form.relocate move)
  | .call closure => .call (closure.relocate move)
  | .native function arguments => .native function (arguments.map (Value.relocate move))
  | step => step

theorem relocate_id (step : TraceStep) : step.relocate id = step := by
  cases step with
  | visit => simp only [relocate, Expr.relocate_id]
  | apply => simp only [relocate, Expr.relocate_id]
  | bound => simp only [relocate, Value.relocate_id]
  | quote => simp only [relocate, Expr.relocate_id]
  | call => simp only [relocate, Closure.relocate, Expr.relocate_all_id]
  | native function arguments =>
      simp only [relocate, ← Value.relocate_all_eq_map, Value.relocate_all_id]
  | _ => rfl

@[simp]
theorem render_relocate (move : Location → Location) (step : TraceStep) :
    (step.relocate move).render = step.render := by
  cases step with
  | native function arguments =>
      simp only [relocate, render, ← Value.relocate_list, Value.describe_relocate]
  | visit => simp only [relocate, render, Expr.describe_relocate]
  | apply => simp only [relocate, render, Expr.describe_relocate]
  | bound => simp only [relocate, render, Value.describe_relocate]
  | quote => simp only [relocate, render, Expr.describe_relocate]
  | _ => rfl

end TraceStep

def TraceEntry.relocate (move : Location → Location) (entry : TraceEntry) : TraceEntry :=
  { entry with step := entry.step.relocate move }

theorem TraceEntry.relocate_id (entry : TraceEntry) : entry.relocate id = entry := by
  rw [relocate, TraceStep.relocate_id]

def Event.relocate (move : Location → Location) : Event → Event
  | .display text => .display text
  | .trace entry => .trace (entry.relocate move)

theorem Event.map_relocate_id (events : Array Event) : events.map (Event.relocate id) = events := by
  have same : Event.relocate id = id := by
    funext event
    cases event with
    | display text => rfl
    | trace entry => exact congrArg Event.trace (TraceEntry.relocate_id entry)
  rw [same, Array.map_id]

def Failure.relocate (move : Location → Location) : Failure → Failure
  | .arityMismatch closure given scope => .arityMismatch (closure.relocate move) given scope
  | failure => failure

theorem Failure.relocate_id (failure : Failure) : failure.relocate id = failure := by
  cases failure with
  | arityMismatch => simp only [relocate, Closure.relocate, Expr.relocate_all_id]
  | _ => rfl

def Machine.relocate (move : Location → Location) (machine : Machine) : Machine :=
  { machine with
    scopes := machine.scopes.relocate move
    events := machine.events.map (Event.relocate move) }

theorem TraceFile.catch_up_relocate (move : Location → Location) (file : TraceFile)
    (events : Array Event) :
    file.catchUp (events.map (Event.relocate move)) = file.catchUp events := by
  have accepted (held : TraceFile) (event : Event) :
      held.acceptEvent (event.relocate move) = held.acceptEvent event := by
    cases event <;> rfl
  simp only [catchUp, Array.toList_map, Array.size_map, ← List.map_drop, List.foldl_map, accepted]

end Lisplet
