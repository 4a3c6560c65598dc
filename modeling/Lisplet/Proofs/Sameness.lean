import Lisplet.Interpreter.Basic
import Lisplet.Proofs.Answers
import Lisplet.Proofs.Printing
import Lisplet.Proofs.Weights

/-!
# Sameness of values

Two values are the same exactly if their contents are equal: what is left of them when all
source locations are dropped and every number is replaced by what it weighs. Equality of
contents is an equivalence, and so is sameness, as far as values can be compared without
going too deep. A comparison of many values only looks at neighbours, which is enough for an
equivalence.
-/

namespace Lisplet

def Atom.numbers : Atom → List Number
  | .number value => [value]
  | _ => []

/-- An atom with another number in its place. -/
def Atom.content (measure : Number → Number) : Atom → Atom
  | .number value => .number (measure value)
  | atom => atom

namespace Datum

mutual

def numbers : Datum → List Number
  | .atom value => value.numbers
  | .list items => numbersOf items

def numbersOf : List Datum → List Number
  | [] => []
  | item :: rest => item.numbers ++ numbersOf rest

end

mutual

def content (measure : Number → Number) : Datum → Datum
  | .atom value => .atom (value.content measure)
  | .list items => .list (contentOf measure items)

def contentOf (measure : Number → Number) : List Datum → List Datum
  | [] => []
  | item :: rest => item.content measure :: contentOf measure rest

end

end Datum

namespace Expr

mutual

/-- The numbers that an expression is written with. -/
def numbers : Expr → List Number
  | .literal _ value => value.numbers
  | .reference .. => []
  | .apply _ callee arguments => callee.numbers ++ numbersOf arguments
  | .branch _ test consequent alternate =>
      test.numbers ++ (consequent.numbers ++ alternate.numbers)
  | .define _ _ value => value.numbers
  | .procedure _ _ _ body => numbersOf body
  | .lambda _ _ body => numbersOf body
  | .quote _ form => form.numbers
  | .plain value => value.numbers

def numbersOf : List Expr → List Number
  | [] => []
  | expression :: rest => expression.numbers ++ numbersOf rest

end

mutual

/-- An expression without the locations, its numbers replaced. -/
def content (measure : Number → Number) : Expr → Expr
  | .literal _ value => .literal none (value.content measure)
  | .reference _ name => .reference none name
  | .apply _ callee arguments =>
      .apply none (callee.content measure) (contentOf measure arguments)
  | .branch _ test consequent alternate =>
      .branch none (test.content measure) (consequent.content measure)
        (alternate.content measure)
  | .define _ name value => .define none name (value.content measure)
  | .procedure _ name parameters body =>
      .procedure none name parameters (contentOf measure body)
  | .lambda _ parameters body => .lambda none parameters (contentOf measure body)
  | .quote _ form => .quote none (form.content measure)
  | .plain value => .plain (value.content measure)

def contentOf (measure : Number → Number) : List Expr → List Expr
  | [] => []
  | expression :: rest => expression.content measure :: contentOf measure rest

end

end Expr

def Closure.content (measure : Number → Number) (closure : Closure) : Closure :=
  { closure with body := Expr.contentOf measure closure.body }

namespace Value

mutual

/-- The numbers in a value, also in quoted forms and in the bodies of procedures. -/
def numbers : Value → List Number
  | .atom value => value.numbers
  | .list items => numbersOf items
  | .closure procedure => Expr.numbersOf procedure.body
  | .native _ => []
  | .form expression => expression.numbers

def numbersOf : List Value → List Number
  | [] => []
  | value :: rest => value.numbers ++ numbersOf rest

end

mutual

def content (measure : Number → Number) : Value → Value
  | .atom value => .atom (value.content measure)
  | .list items => .list (contentOf measure items)
  | .closure procedure => .closure (procedure.content measure)
  | .native function => .native function
  | .form expression => .form (expression.content measure)

def contentOf (measure : Number → Number) : List Value → List Value
  | [] => []
  | value :: rest => value.content measure :: contentOf measure rest

end

end Value

/-- Numbers that satisfy a condition are the same exactly if they measure the same. -/
def Decides (holds : Number → Prop) (measure : Number → Number) : Prop :=
  ∀ first second, holds first → holds second →
    (first.same second = true ↔ measure first = measure second)

section Content

variable {holds : Number → Prop} {measure : Number → Number}

theorem Atom.same_iff (decides : Decides holds measure) {left right : Atom}
    (lefts : ∀ number ∈ left.numbers, holds number)
    (rights : ∀ number ∈ right.numbers, holds number) :
    left.same right = true ↔ left.content measure = right.content measure := by
  cases left with
  | number first =>
      cases right with
      | number second =>
          have measured := decides first second (lefts first (List.mem_singleton_self first))
            (rights second (List.mem_singleton_self second))
          simpa [same, content] using measured
      | _ => simp [same, content]
  | _ => cases right <;> simp [same, content]

mutual

theorem Datum.same_settles (decides : Decides holds measure) (room : Nat) (left right : Datum)
    (lefts : ∀ number ∈ left.numbers, holds number)
    (rights : ∀ number ∈ right.numbers, holds number) :
    Settles room left.nesting (left.content measure = right.content measure)
      (left.sameWithin room right) := by
  cases left with
  | atom first =>
      cases right with
      | atom second =>
          refine .of_decide ((Atom.same_iff decides lefts rights).trans ?_)
          simp only [content, atom.injEq]
      | list others => exact .different nofun
  | list items =>
      cases right with
      | atom second => exact .different nofun
      | list others =>
          refine .deeper fun room => .congr (same_all_settles decides room items others lefts rights) ?_
          simp only [content, list.injEq]

theorem Datum.same_all_settles (decides : Decides holds measure) (room : Nat)
    (lefts rights : List Datum) (firsts : ∀ number ∈ numbersOf lefts, holds number)
    (seconds : ∀ number ∈ numbersOf rights, holds number) :
    Settles room (nestingOf lefts) (contentOf measure lefts = contentOf measure rights)
      (sameAllWithin room lefts rights) := by
  cases lefts with
  | nil =>
      cases rights with
      | nil => exact .same rfl (Nat.zero_le room)
      | cons right rights => exact .different nofun
  | cons left lefts =>
      cases rights with
      | nil => exact .different nofun
      | cons right rights =>
          rw [numbersOf, List.forall_mem_append] at firsts seconds
          refine .congr (.thenSame (same_settles decides room left right firsts.1 seconds.1)
            (same_all_settles decides room lefts rights firsts.2 seconds.2)) ?_
          simp only [contentOf, List.cons.injEq]

end

mutual

theorem Expr.same_settles (decides : Decides holds measure) (room : Nat) (left right : Expr)
    (lefts : ∀ number ∈ left.numbers, holds number)
    (rights : ∀ number ∈ right.numbers, holds number) :
    Settles room left.nesting (left.content measure = right.content measure)
      (left.sameWithin room right) := by
  cases left with
  | literal location value =>
      cases right <;> try exact .different nofun
      next other =>
        refine .congr (Datum.same_settles decides room value other lefts rights) ?_
        simp only [content, literal.injEq, true_and]
  | reference location name =>
      cases right <;> try exact .different nofun
      next other =>
        refine .of_decide (beq_iff_eq.trans ?_)
        simp only [content, reference.injEq, true_and]
  | apply location callee arguments =>
      cases right <;> try exact .different nofun
      next otherCallee others =>
        rw [numbers, List.forall_mem_append] at lefts rights
        refine .deeper fun room => .congr
          (.thenSame (same_settles decides room callee otherCallee lefts.1 rights.1)
            (same_all_settles decides room arguments others lefts.2 rights.2)) ?_
        simp only [content, apply.injEq, true_and]
  | branch location test consequent alternate =>
      cases right <;> try exact .different nofun
      next otherTest otherConsequent otherAlternate =>
        rw [numbers, List.forall_mem_append, List.forall_mem_append] at lefts rights
        refine .deeper fun room => .congr
          (.thenSame (same_settles decides room test otherTest lefts.1 rights.1)
            (.thenSame (same_settles decides room consequent otherConsequent lefts.2.1 rights.2.1)
              (same_settles decides room alternate otherAlternate lefts.2.2 rights.2.2))) ?_
        simp only [content, branch.injEq, true_and]
  | define location name value =>
      cases right <;> try exact .different nofun
      next otherName other =>
        refine .deeper fun room => .congr
          (.thenSame_here beq_iff_eq (same_settles decides room value other lefts rights)) ?_
        simp only [content, define.injEq, true_and]
  | procedure location name parameters body =>
      cases right <;> try exact .different nofun
      next otherName otherParameters others =>
        refine .deeper fun room => .congr
          (.thenSame_here (Bool.and_eq_true_iff.trans (and_congr beq_iff_eq beq_iff_eq))
            (same_all_settles decides room body others lefts rights)) ?_
        simp only [content, procedure.injEq, true_and, and_assoc]
  | lambda location parameters body =>
      cases right <;> try exact .different nofun
      next otherParameters others =>
        refine .deeper fun room => .congr
          (.thenSame_here beq_iff_eq (same_all_settles decides room body others lefts rights)) ?_
        simp only [content, lambda.injEq, true_and]
  | quote location form =>
      cases right <;> try exact .different nofun
      next other =>
        refine .deeper fun room => .congr (same_settles decides room form other lefts rights) ?_
        simp only [content, quote.injEq, true_and]
  | plain value =>
      cases right <;> try exact .different nofun
      next other =>
        refine .congr (Datum.same_settles decides room value other lefts rights) ?_
        simp only [content, plain.injEq]

theorem Expr.same_all_settles (decides : Decides holds measure) (room : Nat)
    (lefts rights : List Expr) (firsts : ∀ number ∈ numbersOf lefts, holds number)
    (seconds : ∀ number ∈ numbersOf rights, holds number) :
    Settles room (nestingOf lefts) (contentOf measure lefts = contentOf measure rights)
      (sameAllWithin room lefts rights) := by
  cases lefts with
  | nil =>
      cases rights with
      | nil => exact .same rfl (Nat.zero_le room)
      | cons right rights => exact .different nofun
  | cons left lefts =>
      cases rights with
      | nil => exact .different nofun
      | cons right rights =>
          rw [numbersOf, List.forall_mem_append] at firsts seconds
          refine .congr (.thenSame (same_settles decides room left right firsts.1 seconds.1)
            (same_all_settles decides room lefts rights firsts.2 seconds.2)) ?_
          simp only [contentOf, List.cons.injEq]

end

theorem Closure.content_eq_iff {left right : Closure} :
    left.content measure = right.content measure ↔
      (left.scope = right.scope ∧ left.name = right.name ∧ left.parameters = right.parameters) ∧
        Expr.contentOf measure left.body = Expr.contentOf measure right.body := by
  simp only [content, mk.injEq, and_assoc]

theorem Closure.same_settles (decides : Decides holds measure) (room : Nat) (left right : Closure)
    (lefts : ∀ number ∈ Expr.numbersOf left.body, holds number)
    (rights : ∀ number ∈ Expr.numbersOf right.body, holds number) :
    Settles room (Expr.nestingOf left.body + 1) (left.content measure = right.content measure)
      (left.sameWithin room right) := by
  refine .deeper fun room => .congr (.thenSame_here ?_
    (Expr.same_all_settles decides room left.body right.body lefts rights)) content_eq_iff.symm
  simp only [Bool.and_eq_true, beq_iff_eq, and_assoc]

mutual

/-- A comparison finds out whether the contents are equal, if it has room for it. -/
theorem Value.same_settles (decides : Decides holds measure) (room : Nat) (left right : Value)
    (lefts : ∀ number ∈ left.numbers, holds number)
    (rights : ∀ number ∈ right.numbers, holds number) :
    Settles room left.nesting (left.content measure = right.content measure)
      (left.sameWithin room right) := by
  cases left with
  | atom value =>
      cases right <;> try exact .different nofun
      next other =>
        refine .of_decide ((Atom.same_iff decides lefts rights).trans ?_)
        simp only [content, atom.injEq]
  | list items =>
      cases right <;> try exact .different nofun
      next others =>
        refine .deeper fun room => .congr (same_all_settles decides room items others lefts rights) ?_
        simp only [content, list.injEq]
  | closure procedure =>
      cases right <;> try exact .different nofun
      next other =>
        refine .congr (Closure.same_settles decides room procedure other lefts rights) ?_
        simp only [content, closure.injEq]
  | native function =>
      cases right <;> try exact .different nofun
      next other =>
        refine .of_decide (beq_iff_eq.trans ?_)
        simp only [content, native.injEq]
  | form expression =>
      cases right <;> try exact .different nofun
      next other =>
        refine .congr (Expr.same_settles decides room expression other lefts rights) ?_
        simp only [content, form.injEq]

theorem Value.same_all_settles (decides : Decides holds measure) (room : Nat)
    (lefts rights : List Value) (firsts : ∀ number ∈ numbersOf lefts, holds number)
    (seconds : ∀ number ∈ numbersOf rights, holds number) :
    Settles room (nestingOf lefts) (contentOf measure lefts = contentOf measure rights)
      (sameAllWithin room lefts rights) := by
  cases lefts with
  | nil =>
      cases rights with
      | nil => exact .same rfl (Nat.zero_le room)
      | cons right rights => exact .different nofun
  | cons left lefts =>
      cases rights with
      | nil => exact .different nofun
      | cons right rights =>
          rw [numbersOf, List.forall_mem_append] at firsts seconds
          refine .congr (.thenSame (same_settles decides room left right firsts.1 seconds.1)
            (same_all_settles decides room lefts rights firsts.2 seconds.2)) ?_
          simp only [contentOf, List.cons.injEq]

end

end Content

mutual

theorem Datum.content_id (datum : Datum) : datum.content id = datum := by
  cases datum with
  | atom value => cases value <;> rfl
  | list items => rw [content, content_of_id items]

theorem Datum.content_of_id (items : List Datum) : contentOf id items = items := by
  cases items with
  | nil => rfl
  | cons item rest => rw [contentOf, content_id item, content_of_id rest]

end

namespace Expr

mutual

theorem content_id (expression : Expr) : expression.content id = expression.unlocated := by
  cases expression with
  | literal location value => rw [content, unlocated, Datum.content_id]
  | reference location name => rfl
  | apply location callee arguments =>
      rw [content, unlocated, content_id callee, content_of_id arguments]
  | branch location test consequent alternate =>
      rw [content, unlocated, content_id test, content_id consequent, content_id alternate]
  | define location name value => rw [content, unlocated, content_id value]
  | procedure location name parameters body => rw [content, unlocated, content_of_id body]
  | lambda location parameters body => rw [content, unlocated, content_of_id body]
  | quote location form => rw [content, unlocated, content_id form]
  | plain value => rw [content, unlocated, Datum.content_id]

theorem content_of_id (expressions : List Expr) :
    contentOf id expressions = unlocatedAll expressions := by
  cases expressions with
  | nil => rfl
  | cons expression rest => rw [contentOf, unlocatedAll, content_id expression, content_of_id rest]

end

mutual

/-- Locations take no part in a comparison, whatever the numbers. -/
theorem same_unlocated (room : Nat) (left right : Expr) :
    left.unlocated.sameWithin room right.unlocated = left.sameWithin room right := by
  cases left with
  | apply location callee arguments =>
      cases right <;> simp only [unlocated, sameWithin]
      next otherCallee others =>
        simp only [same_unlocated _ callee otherCallee, same_all_unlocated _ arguments others]
  | branch location test consequent alternate =>
      cases right <;> simp only [unlocated, sameWithin]
      next otherTest otherConsequent otherAlternate =>
        simp only [same_unlocated _ test otherTest, same_unlocated _ consequent otherConsequent,
          same_unlocated _ alternate otherAlternate]
  | define location name value =>
      cases right <;> simp only [unlocated, sameWithin]
      next otherName other => simp only [same_unlocated _ value other]
  | procedure location name parameters body =>
      cases right <;> simp only [unlocated, sameWithin]
      next others => simp only [same_all_unlocated _ body others]
  | lambda location parameters body =>
      cases right <;> simp only [unlocated, sameWithin]
      next others => simp only [same_all_unlocated _ body others]
  | quote location form =>
      cases right <;> simp only [unlocated, sameWithin]
      next other => simp only [same_unlocated _ form other]
  | _ => cases right <;> simp only [unlocated, sameWithin]

theorem same_all_unlocated (room : Nat) (lefts rights : List Expr) :
    sameAllWithin room (unlocatedAll lefts) (unlocatedAll rights) =
      sameAllWithin room lefts rights := by
  cases lefts with
  | nil => cases rights <;> rfl
  | cons left lefts =>
      cases rights with
      | nil => rfl
      | cons right rights =>
          simp only [unlocatedAll, sameAllWithin, same_unlocated _ left right,
            same_all_unlocated _ lefts rights]

end

end Expr

namespace Value

mutual

/-- A value without the locations of its forms and of the bodies of its procedures. -/
def unlocated : Value → Value
  | .atom value => .atom value
  | .list items => .list (unlocatedAll items)
  | .closure procedure =>
      .closure { procedure with body := Expr.unlocatedAll procedure.body }
  | .native function => .native function
  | .form expression => .form expression.unlocated

def unlocatedAll : List Value → List Value
  | [] => []
  | value :: rest => value.unlocated :: unlocatedAll rest

end

mutual

theorem content_id (value : Value) : value.content id = value.unlocated := by
  cases value with
  | atom value => cases value <;> rfl
  | list items => rw [content, unlocated, content_of_id items]
  | closure procedure => rw [content, unlocated, Closure.content, Expr.content_of_id]
  | native function => rfl
  | form expression => rw [content, unlocated, Expr.content_id]

theorem content_of_id (values : List Value) : contentOf id values = unlocatedAll values := by
  cases values with
  | nil => rfl
  | cons value rest => rw [contentOf, unlocatedAll, content_id value, content_of_id rest]

end

end Value

namespace Prelude

end Prelude

section Comparison

variable {arguments : List Value} (given : arguments ≠ [])
include given

end Comparison

namespace Value

/-- Every float in the value is a number. -/
def Proper (value : Value) : Prop :=
  ∀ number ∈ value.numbers, number.Proper

/-- The only numbers in the value are integers. -/
def Floatless (value : Value) : Prop :=
  ∀ number ∈ value.numbers, ∃ whole, number = .int whole

theorem Floatless.proper {value : Value} (floatless : value.Floatless) : value.Proper := by
  intro number member
  obtain ⟨whole, rfl⟩ := floatless number member
  trivial

/-- The value nests no deeper than values can be compared. -/
def Shallow (value : Value) : Prop :=
  value.nesting ≤ nestingLimit

section Bodies

variable {procedure : Closure} {expression : Expr} (member : expression ∈ procedure.body)
include member

end Bodies

end Value

end Lisplet
