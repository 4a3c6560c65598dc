import Lisplet.Interpreter.Basic
import Lisplet.Proofs.Applications

/-!
# Exact division

Division goes through its divisors one by one and keeps integers as long as every quotient
is exact. Once it has turned to floats it stays there. So its result is an integer exactly
if the product of all divisors divides the dividend, and then their order is of no account.
-/

namespace Lisplet

def productOf (factors : List Int) : Int :=
  factors.foldr (· * ·) 1

theorem product_of_cons (factor : Int) (rest : List Int) :
    productOf (factor :: rest) = factor * productOf rest :=
  rfl

theorem product_of_perm {left right : List Int} (permutation : left.Perm right) :
    productOf left = productOf right :=
  permutation.foldr_eq' (fun first _ second _ total => Int.mul_left_comm second first total) 1

namespace Number

def Inexact (number : Number) : Prop :=
  ∀ value, number ≠ .int value

theorem inexact_of_double (serial : Nat) (value : Double) : (ofDouble serial value).Inexact := by
  unfold ofDouble
  split_ifs <;> exact nofun

theorem div_of_multiple (serial : Nat) {divisor : Int} (nonzero : divisor ≠ 0) (result : Int) :
    div serial (.int (result * divisor)) (.int divisor) = .ok (.int result) := by
  have exactly : result * divisor / divisor = result := Int.mul_ediv_cancel result nonzero
  simp [div, divideIntegers, nonzero, exactly]

theorem div_int_cases {serial : Nat} {dividend divisor : Int} {result : Number}
    (divided : div serial (.int dividend) (.int divisor) = .ok result) :
    (divisor ≠ 0 ∧ ∃ value, result = .int value ∧ value * divisor = dividend) ∨
      result.Inexact := by
  change divideIntegers dividend divisor = .ok result at divided
  unfold divideIntegers at divided
  by_cases zero : divisor = 0
  · simp [zero] at divided
  rw [if_neg zero] at divided
  by_cases exactly : dividend % divisor = 0
  · rw [if_pos exactly] at divided
    cases divided
    exact .inl ⟨zero, _, rfl, Int.ediv_mul_cancel_of_emod_eq_zero exactly⟩
  · rw [if_neg exactly] at divided
    dsimp only at divided
    split_ifs at divided
    cases divided
    exact .inr nofun

theorem div_of_inexact {serial : Nat} {left right result : Number} (inexact : left.Inexact)
    (divided : div serial left right = .ok result) : result.Inexact := by
  have rounded : (do
      let leftDouble ← left.toDouble
      let rightDouble ← right.toDouble
      if rightDouble.isZero then .error .floatDivisionByZero
      else return ofDouble serial (leftDouble.div rightDouble)) = .ok result := by
    cases left with
    | int value => exact absurd rfl (inexact value)
    | float | nan => exact divided
  cases leftDouble : left.toDouble with
  | error fault => simp [leftDouble, bind, Except.bind] at rounded
  | ok first =>
      cases rightDouble : right.toDouble with
      | error fault => simp [leftDouble, rightDouble, bind, Except.bind] at rounded
      | ok second =>
          simp only [leftDouble, rightDouble, bind, Except.bind] at rounded
          split_ifs at rounded
          cases rounded
          exact inexact_of_double serial _

theorem div_zero (serial : Nat) (left : Number) :
    ∃ fault, div serial left (.int 0) = .error fault := by
  cases left with
  | int value => exact ⟨.integerDivisionByZero, rfl⟩
  | float | nan => exact ⟨.floatDivisionByZero, rfl⟩

end Number

section Chain

open Prelude (foldNumbers)

variable {serial : Nat}

theorem divisions_of_multiple {divisors : List Int} (nonzero : productOf divisors ≠ 0)
    (result : Int) :
    foldNumbers (Number.div serial) (.int (result * productOf divisors)) (divisors.map .int) =
      .ok (.int result) := by
  induction divisors with
  | nil => simp [foldNumbers, productOf, pure, Except.pure]
  | cons divisor rest ih =>
      obtain ⟨head, tail⟩ := Int.mul_ne_zero_iff.mp nonzero
      have regrouped :
          result * productOf (divisor :: rest) = result * productOf rest * divisor := by
        rw [product_of_cons, Int.mul_comm divisor, Int.mul_assoc]
      rw [regrouped, List.map_cons, foldNumbers, Number.div_of_multiple serial head]
      exact ih tail

theorem divisions_of_inexact {divisors : List Number} {total result : Number}
    (inexact : total.Inexact)
    (divided : foldNumbers (Number.div serial) total divisors = .ok result) : result.Inexact := by
  induction divisors generalizing total with
  | nil =>
      cases divided
      exact inexact
  | cons divisor rest ih =>
      rw [foldNumbers] at divided
      cases step : Number.div serial total divisor with
      | error fault => simp [step, Prelude.arithmetic, bind, Except.bind] at divided
      | ok next =>
          rw [step] at divided
          exact ih (Number.div_of_inexact inexact step) divided

/-- An integer at the end means that every step was exact. -/
theorem divisions_exact {divisors : List Int} {dividend result : Int}
    (divided : foldNumbers (Number.div serial) (.int dividend) (divisors.map .int) =
      .ok (.int result)) :
    productOf divisors ≠ 0 ∧ result * productOf divisors = dividend := by
  induction divisors generalizing dividend with
  | nil =>
      cases divided
      simp [productOf]
  | cons divisor rest ih =>
      rw [List.map_cons, foldNumbers] at divided
      cases step : Number.div serial (.int dividend) (.int divisor) with
      | error fault => simp [step, Prelude.arithmetic, bind, Except.bind] at divided
      | ok next =>
          rw [step] at divided
          rcases Number.div_int_cases step with ⟨head, partly, rfl, exactly⟩ | inexact
          · obtain ⟨tail, others⟩ := ih divided
            refine ⟨Int.mul_ne_zero head tail, ?_⟩
            rw [product_of_cons, Int.mul_comm divisor, ← Int.mul_assoc, others, exactly]
          · exact absurd rfl (divisions_of_inexact inexact divided result)

theorem divisions_by_zero (serial : Nat) {divisors : List Int} (zero : 0 ∈ divisors)
    (total : Number) :
    ∃ fault, foldNumbers (Number.div serial) total (divisors.map .int) =
      .error (.arithmetic fault) := by
  induction divisors generalizing total with
  | nil => cases zero
  | cons divisor rest ih =>
      rw [List.map_cons, foldNumbers]
      cases step : Number.div serial total (.int divisor) with
      | error fault => exact ⟨fault, rfl⟩
      | ok next =>
          rcases List.mem_cons.mp zero with head | later
          · obtain ⟨fault, failed⟩ := Number.div_zero serial total
            rw [← head, failed] at step
            cases step
          · exact ih later next

end Chain

def integers (operands : List Int) : List Value :=
  operands.map fun operand => .number (.int operand)

theorem numbers_integers (function : Native) (operands : List Int) :
    Prelude.numbers function (integers operands) = .ok (operands.map .int) := by
  induction operands with
  | nil => rfl
  | cons operand rest ih =>
      change (do
        let others ← Prelude.numbers function (integers rest)
        return Number.int operand :: others) = _
      rw [ih]
      rfl

theorem quotient_integers (serial : Nat) (dividend : Int) {divisors : List Int}
    (some : divisors ≠ []) :
    Prelude.quotient serial (integers (dividend :: divisors)) =
      Value.number <$>
        Prelude.foldNumbers (Number.div serial) (.int dividend) (divisors.map .int) := by
  cases divisors with
  | nil => exact absurd rfl some
  | cons divisor rest =>
      change (do
        let operands ← Prelude.numbers .divide (integers (dividend :: divisor :: rest))
        _ : Except Fault Value) = _
      rw [numbers_integers]
      rfl

theorem numbers_length (function : Native) {arguments : List Value} {operands : List Number}
    (taken : Prelude.numbers function arguments = .ok operands) :
    operands.length = arguments.length := by
  induction arguments generalizing operands with
  | nil =>
      cases taken
      rfl
  | cons value rest ih =>
      unfold Prelude.numbers at taken
      split at taken
      · simp_all
      · rename_i number others same
        cases same
        cases further : Prelude.numbers function rest with
        | error fault => simp [further, bind, Except.bind] at taken
        | ok numbers =>
            rw [further] at taken
            cases taken
            simp [ih further]
      · rename_i other others _ same
        cases same
        unfold Prelude.complain at taken
        split at taken <;> cases taken

theorem quotient_single (serial : Nat) (value : Value) :
    Prelude.quotient serial [value] = Prelude.quotient serial [.number (.int 1), value] := by
  have second : Prelude.numbers .divide [.number (.int 1), value] = (do
      let others ← Prelude.numbers .divide [value]
      return Number.int 1 :: others) := rfl
  change (do
    let operands ← Prelude.numbers .divide [value]
    _ : Except Fault Value) = (do
    let operands ← Prelude.numbers .divide [.number (.int 1), value]
    _ : Except Fault Value)
  rw [second]
  cases taken : Prelude.numbers .divide [value] with
  | error fault => rfl
  | ok operands =>
      obtain ⟨operand, rfl⟩ := List.length_eq_one_iff.mp (numbers_length .divide taken)
      rfl

/-- How a computation ends that a native function makes under a serial of its own. -/
def numericOutcome (site : ScopeId) (machine : Machine) :
    Except Fault Value → EStateM.Result Failure Machine Value
  | .ok value => .ok value { machine with serial := machine.serial + 1 }
  | .error cause => .error (.native cause site) { machine with serial := machine.serial + 1 }

theorem inside_numeric (site : ScopeId) (compute : Nat → Except Fault Value) (machine : Machine) :
    (EvalM.insideNative site (Prelude.numericReply compute)).adaptExcept (blameNative site)
        machine =
      (EvalM.insideNative site (Prelude.pureReply (compute machine.serial))).adaptExcept
        (blameNative site) { machine with serial := machine.serial + 1 } :=
  rfl

theorem call_divide (apply : Applier) (arguments : List Value) (site : ScopeId)
    (machine : Machine) :
    callNative false apply .divide arguments site machine =
      numericOutcome site machine (Prelude.quotient machine.serial arguments) := by
  cases computed : Prelude.quotient machine.serial arguments with
  | ok value =>
      have replied : (EvalM.insideNative site (Prelude.invoke (callBack apply) .divide
          arguments)).adaptExcept (blameNative site) machine =
            .ok (.value value) { machine with serial := machine.serial + 1 } := by
        rw [Prelude.invoke, inside_numeric, computed]
        rfl
      exact EvalM.bind_ok replied _
  | error cause =>
      have failed : (EvalM.insideNative site (Prelude.invoke (callBack apply) .divide
          arguments)).adaptExcept (blameNative site) machine =
            .error (.native cause site) { machine with serial := machine.serial + 1 } := by
        rw [Prelude.invoke, inside_numeric, computed]
        rfl
      exact EvalM.bind_error failed _

/-- The division of integers as a program asks for it in a scope, behind its announcement. -/
def divided (apply : Applier) (site : ScopeId) (operands : List Int) : EvalM Value :=
  callNative false apply .divide (integers operands) site

section Division

variable {apply : Applier} {site : ScopeId} {machine : Machine} {dividend : Int}
  {divisors : List Int}

theorem divided_of_multiple (some : divisors ≠ []) (nonzero : productOf divisors ≠ 0)
    (result : Int) :
    divided apply site (result * productOf divisors :: divisors) machine =
      .ok (.number (.int result)) { machine with serial := machine.serial + 1 } := by
  rw [divided, call_divide, quotient_integers _ _ some, divisions_of_multiple nonzero]
  rfl

theorem exact_of_divided (some : divisors ≠ []) {result : Int} {after : Machine}
    (returned : divided apply site (dividend :: divisors) machine =
      .ok (.number (.int result)) after) :
    productOf divisors ≠ 0 ∧ result * productOf divisors = dividend := by
  rw [divided, call_divide, quotient_integers _ _ some] at returned
  cases folded : Prelude.foldNumbers (Number.div machine.serial) (.int dividend)
      (divisors.map .int) with
  | error fault =>
      rw [folded] at returned
      cases returned
  | ok total =>
      rw [folded] at returned
      cases returned
      exact divisions_exact folded

theorem divided_by_zero (some : divisors ≠ []) (zero : 0 ∈ divisors) :
    ∃ fault after, divided apply site (dividend :: divisors) machine =
      .error (.native (.arithmetic fault) site) after := by
  obtain ⟨fault, failed⟩ := divisions_by_zero machine.serial zero (.int dividend)
  refine ⟨fault, { machine with serial := machine.serial + 1 }, ?_⟩
  rw [divided, call_divide, quotient_integers _ _ some, failed]
  rfl

end Division

/-- Division of integers is exact, whatever their signs and sizes. It returns an integer
exactly if the product of the divisors is not zero and divides the dividend. That integer
times the product is the dividend, and with the divisors in any other order the division
ends with it as well. With a zero among the divisors the division fails. One operand alone
is divided into one. A traced application does all this once it has announced itself. -/
theorem integer_division_is_exact (apply : Applier) (site : ScopeId) (machine : Machine)
    (dividend : Int) (divisors : List Int) (some : divisors ≠ []) :
    ((∃ result after, divided apply site (dividend :: divisors) machine =
        .ok (.number (.int result)) after) ↔
      productOf divisors ≠ 0 ∧ productOf divisors ∣ dividend) ∧
    (∀ result after, divided apply site (dividend :: divisors) machine =
        .ok (.number (.int result)) after →
      result * productOf divisors = dividend ∧
      ∀ others, others.Perm divisors → divided apply site (dividend :: others) machine =
        .ok (.number (.int result)) after) ∧
    (0 ∈ divisors → ∃ fault after, divided apply site (dividend :: divisors) machine =
      .error (.native (.arithmetic fault) site) after) ∧
    (∀ value, callNative false apply .divide [value] site =
      callNative false apply .divide [.number (.int 1), value] site) ∧
    ∀ tracing arguments, applyWith tracing apply (.native .divide) arguments site =
      EvalM.announce tracing (fun _ => .native .divide arguments) >>= fun _ =>
        callNative false apply .divide arguments site := by
  have multiple {others : List Int} (same : others.Perm divisors) (result : Int)
      (nonzero : productOf divisors ≠ 0) :
      divided apply site (result * productOf divisors :: others) machine =
        .ok (.number (.int result)) { machine with serial := machine.serial + 1 } := by
    have others_some : others ≠ [] := fun none => some (by simpa [none] using same)
    rw [← product_of_perm same] at nonzero ⊢
    exact divided_of_multiple others_some nonzero result
  refine ⟨⟨?_, ?_⟩, ?_, divided_by_zero some, ?_, fun tracing arguments => rfl⟩
  · rintro ⟨result, after, returned⟩
    obtain ⟨nonzero, exactly⟩ := exact_of_divided some returned
    exact ⟨nonzero, ⟨result, by rw [← exactly, Int.mul_comm]⟩⟩
  · rintro ⟨nonzero, result, rfl⟩
    rw [Int.mul_comm]
    exact ⟨result, _, multiple (.refl divisors) result nonzero⟩
  · intro result after returned
    obtain ⟨nonzero, exactly⟩ := exact_of_divided some returned
    refine ⟨exactly, fun others same => ?_⟩
    rw [← exactly] at returned ⊢
    rw [multiple same result nonzero, ← returned]
    exact (multiple (.refl divisors) result nonzero).symm
  · intro value
    funext machine
    rw [call_divide, call_divide, quotient_single]

theorem integer_division_is_exact_reordered :
    [3, -2] ≠ ([] : List Int) ∧
    (∃ after, divided (applyWithin false 0) globalScope [-12, 3, -2] {} =
        .ok (.number (.int 2)) after ∧
      divided (applyWithin false 0) globalScope [-12, -2, 3] {} = .ok (.number (.int 2)) after) ∧
    ¬ ∃ result after, divided (applyWithin false 0) globalScope [-12, 4, 2] {} =
      .ok (.number (.int result)) after := by
  have ordered := integer_division_is_exact (applyWithin false 0) globalScope {} (-12) [3, -2]
    (List.cons_ne_nil 3 [-2])
  have inexact := integer_division_is_exact (applyWithin false 0) globalScope {} (-12) [4, 2]
    (List.cons_ne_nil 4 [2])
  have returned : divided (applyWithin false 0) globalScope [-12, 3, -2] {} =
      .ok (.number (.int 2)) { serial := 1 } := by rfl
  refine ⟨List.cons_ne_nil 3 [-2],
    ⟨_, returned, (ordered.2.1 2 _ returned).2 [-2, 3] (.swap 3 (-2) [])⟩, ?_⟩
  intro divides
  have remainder : -12 % productOf [4, 2] = 0 :=
    Int.emod_eq_zero_of_dvd (inexact.1.mp divides).2
  exact absurd remainder (by decide)

end Lisplet
