import Lisplet.Proofs.Lexing
import Mathlib.Data.List.TakeWhile

/-!
# Spelling numbers

The text of an integer that is not negative and not too long is read back as that
integer. The text of a float holds no delimiter, so if it is read as one number by
itself, it is read as that number anywhere.
-/

namespace Lisplet

namespace Scanner

theorem solid_digit {character : Char} (digit : character.isDigit = true) :
    isDelimiter character = false := by
  simp only [Char.isDigit, Bool.and_eq_true, decide_eq_true_eq] at digit
  have lower : 48 ≤ character.toNat := digit.1
  have upper : character.toNat ≤ 57 := digit.2
  have apart (other : Char) (outside : other.toNat < 48 ∨ 57 < other.toNat) :
      character ≠ other := by
    rintro rfl
    omega
  have noBlank : Text.isBlank character = false := by
    unfold Text.isBlank Text.blankSpans
    simp only [Text.Spans.contains, Bool.or_false, Bool.if_false_left, Bool.and_eq_false_imp,
      Bool.not_eq_eq_eq_not, Bool.not_true, decide_eq_false_iff_not, Nat.not_lt,
      Bool.or_eq_false_iff, Nat.not_le]
    omega
  simp only [isDelimiter, isGap, noBlank, Bool.false_or, Bool.or_eq_false_iff,
    List.contains_eq_mem, decide_eq_false_iff_not, List.mem_cons, List.not_mem_nil, or_false,
    not_or, beq_eq_false_iff_ne]
  exact ⟨apart ',' (by decide), apart '(' (by decide), apart ')' (by decide),
    apart '[' (by decide), apart ']' (by decide), apart '"' (by decide), apart ';' (by decide)⟩

theorem digits_value_to_digits (value : Nat) :
    Decimal.digitsValue (Nat.toDigits 10 value) = value := by
  have read : Nat.ofDigitChars 10 (Nat.toDigits 10 value) 0 = value :=
    Nat.ofDigitChars_ten_toDigits
  unfold Nat.ofDigitChars at read
  unfold Decimal.digitsValue
  simpa only [Nat.mul_comm] using read

theorem length_digits_le {value limit : Nat} (positive : 0 < limit)
    (short : value < Nat.pow 10 limit) : (Nat.toDigits 10 value).length ≤ limit :=
  (Nat.length_toDigits_le_iff (by decide) positive).mpr short

theorem number_to_digits {value : Nat} (short : value < Nat.pow 10 Number.digitLimit)
    (begin : Place) :
    number (Nat.toDigits 10 value) begin = .ok (.int value) := by
  have digit (character : Char) (member : character ∈ Nat.toDigits 10 value) :
      character.isDigit = true :=
    Nat.isDigit_of_mem_toDigits (by decide) (by decide) member
  have noPoint (character : Char) (member : character ∈ Nat.toDigits 10 value) :
      (character != '.') = true := by
    rw [bne_iff_ne]
    rintro rfl
    exact absurd (digit '.' member) (by decide)
  have length : ¬Number.digitLimit < (Nat.toDigits 10 value).length :=
    Nat.not_lt.mpr (length_digits_le (by decide) short)
  have digits : isDigits (Nat.toDigits 10 value) = true := by
    simp only [isDigits, Bool.and_eq_true, Bool.not_eq_true', List.isEmpty_eq_false_iff,
      List.all_eq_true]
    exact ⟨Nat.toDigits_ne_nil, digit⟩
  unfold number
  rw [List.takeWhile_eq_self_iff.mpr noPoint, List.dropWhile_eq_nil_iff.mpr noPoint]
  simp only [digits, if_neg length, digits_value_to_digits]
  rfl

theorem spells_integer {value : Int} (positive : 0 ≤ value)
    (short : value.natAbs < Nat.pow 10 Number.digitLimit) :
    Spells Separated (toString value).toList [.number (.int value)] := by
  obtain ⟨size, rfl⟩ := Int.eq_ofNat_of_zero_le positive
  have text : (toString (size : Int)).toList = Nat.toDigits 10 size := Nat.toList_repr
  rw [Int.natAbs_natCast] at short
  have digit (character : Char) (member : character ∈ Nat.toDigits 10 size) :
      character.isDigit = true :=
    Nat.isDigit_of_mem_toDigits (by decide) (by decide) member
  have valued := number_to_digits short
  rw [text]
  cases digits : Nat.toDigits 10 size with
  | nil => exact absurd digits Nat.toDigits_ne_nil
  | cons first rest =>
      rw [digits] at digit valued
      exact spells_number (digit first List.mem_cons_self)
        (fun other member => solid_digit (digit other member)) valued

theorem settle_name {scanner : Scanner} {begin : Place} {read : List Char}
    (mode : scanner.mode = .name begin read) :
    scanner.settle = .ok { scanner with
      mode := .gap
      tokens := ⟨nameLexeme (String.ofList read.reverse), begin, read.length⟩ ::
        scanner.tokens } := by
  simp only [settle, mode]
  rfl

theorem run_name_first {scanner : Scanner} {begin : Place} {read text : List Char}
    {tokens : List Token} (mode : scanner.mode = .name begin read)
    (ran : scanner.run text = .ok tokens) :
    ∃ word length more, tokens =
      scanner.tokens.reverse ++ ⟨nameLexeme word, begin, length⟩ :: more := by
  induction text generalizing scanner read with
  | nil =>
      change scanner.finish = .ok tokens at ran
      simp only [finish, mode, settle_name mode] at ran
      cases ran
      exact ⟨_, _, [], List.reverse_cons⟩
  | cons character text ih =>
      by_cases continues : continuesName character = true
      · rw [run_cons (step_name scanner begin read character mode continues)] at ran
        exact @ih (scanner.enter character (.name begin (character :: read))) _ rfl ran
      · cases stepped : scanner.step character with
        | error error =>
            unfold run at ran
            rw [List.foldlM_cons, stepped] at ran
            cases ran
        | ok after =>
            rw [run_cons stepped] at ran
            simp only [step, mode, if_neg continues, settle_name mode] at stepped
            obtain ⟨added, grown, -⟩ := (start_advances stepped).tokens
            obtain ⟨more, rfl, -⟩ := run_adds ran
            refine ⟨String.ofList read.reverse, read.length, added.reverse ++ more, ?_⟩
            rw [grown, List.reverse_append, List.reverse_cons, List.append_assoc, List.append_assoc]
            rfl

theorem name_lexeme_ne_number (word : String) (value : Number) :
    nameLexeme word ≠ .number value := by
  unfold nameLexeme
  split_ifs <;> exact nofun

theorem number_anywhere {text : List Char} {begin : Place} {value : Number}
    (valued : number text begin = .ok value) (other : Place) :
    number text other = .ok value := by
  unfold number at valued ⊢
  dsimp only at valued ⊢
  split at valued
  · split_ifs at valued ⊢
    exact valued
  · split_ifs at valued ⊢
    exact valued

/-- A text without delimiters that is read as one number by itself is read as that
number anywhere. -/
theorem spells_single_number {text : List Char} {value : Number} {place : Place} {length : Nat}
    (solid : ∀ character ∈ text, isDelimiter character = false)
    (ran : Scanner.run {} text = .ok [⟨.number value, place, length⟩]) :
    Spells Separated text [.number value] := by
  cases text with
  | nil => cases ran
  | cons character text =>
      have here := solid character List.mem_cons_self
      -- Without a digit in front the text is read as a name first, or refused.
      by_cases digit : character.isDigit = true
      · obtain ⟨inside, mode, tokens, read⟩ := @run_number {} character text rfl digit solid
        have whole := read []
        rw [List.append_nil, ran] at whole
        change _ = inside.finish at whole
        cases valued : number (character :: text) {} with
        | error error =>
            simp only [finish, settle, mode, List.reverse_reverse, valued] at whole
            cases whole
        | ok found =>
            simp only [finish, settle, mode, tokens, List.reverse_reverse, valued] at whole
            cases whole
            exact spells_number digit solid (number_anywhere valued)
      · by_cases starts : startsName character = true
        · have begun : Scanner.step {} character =
              .ok (Scanner.enter {} character (.name {} [character])) := by
            simp only [step, start_solid here, if_neg digit, if_pos starts]
          rw [run_cons begun] at ran
          obtain ⟨word, _, more, same⟩ := run_name_first rfl ran
          have lexeme := (List.cons.inj same).1
          exact absurd (congrArg Token.lexeme lexeme).symm (name_lexeme_ne_number word value)
        · have refused : Scanner.step {} character =
              .error (.invalidCharacter character {}) := by
            simp only [step, start_solid here, if_neg digit, if_neg starts]
          unfold run at ran
          rw [List.foldlM_cons, refused] at ran
          cases ran

def Solid (text : String) : Prop :=
  ∀ character ∈ text.toList, isDelimiter character = false

instance (text : String) : Decidable (Solid text) :=
  List.decidableBAll (fun character => isDelimiter character = false) text.toList

theorem solid_append {text more : String} (first : Solid text) (second : Solid more) :
    Solid (text ++ more) := by
  intro character member
  rw [String.toList_append] at member
  rcases List.mem_append.mp member with early | late
  · exact first character early
  · exact second character late

theorem solid_digits {digits : List Char}
    (all : ∀ character ∈ digits, character.isDigit = true) : Solid (String.ofList digits) := by
  intro character member
  rw [String.toList_ofList] at member
  exact solid_digit (all character member)

theorem digits_of_nat (value : Nat) :
    ∀ character ∈ (toString value).toList, character.isDigit = true := by
  intro character member
  rw [Nat.toString_eq_repr, Nat.toList_repr] at member
  exact Nat.isDigit_of_mem_toDigits (by decide) (by decide) member

theorem solid_zeros (count : Nat) : Solid (Decimal.zeros count) := by
  refine solid_digits fun character member => ?_
  rw [List.eq_of_mem_replicate member]
  decide

theorem solid_exponent (exponent : Int) : Solid (Decimal.exponentText exponent) := by
  unfold Decimal.exponentText
  have digits : Solid (toString exponent.natAbs) :=
    fun character member => solid_digit (digits_of_nat _ character member)
  refine solid_append (solid_append ?_ ?_) digits
  · split_ifs <;> decide
  · split_ifs <;> decide

theorem solid_layout (decimal : Decimal) : Solid decimal.layout := by
  have digits := digits_of_nat decimal.digits
  have all : Solid (String.ofList (toString decimal.digits).toList) := solid_digits digits
  have taken (count : Nat) : Solid (String.ofList ((toString decimal.digits).toList.take count)) :=
    solid_digits fun character member => digits character (List.mem_of_mem_take member)
  have dropped (count : Nat) :
      Solid (String.ofList ((toString decimal.digits).toList.drop count)) :=
    solid_digits fun character member => digits character (List.mem_of_mem_drop member)
  unfold Decimal.layout
  dsimp only
  split_ifs
  · exact solid_append (solid_append (by decide) (solid_zeros _)) all
  · exact solid_append (solid_append all (solid_zeros _)) (by decide)
  · exact solid_append (solid_append (taken _) (by decide)) (dropped _)
  · exact solid_append (solid_append (solid_append (taken 1) (by decide))
      (by decide)) (solid_exponent _)
  · exact solid_append (solid_append (solid_append (taken 1)
      (solid_append (by decide) (dropped 1))) (by decide)) (solid_exponent _)

theorem solid_double (value : Double) : Solid value.text := by
  unfold Double.text
  split
  · decide
  · split_ifs <;> decide
  · refine solid_append ?_ ?_
    · split_ifs <;> decide
    · split_ifs
      · decide
      · exact solid_layout _

end Scanner

/-- A float whose text is read, by itself, as one number of the same value. -/
def Double.ReadsBack (value : Double) : Prop :=
  ∃ place length, tokenize value.text = .ok [⟨.number (.float value), place, length⟩]

theorem Scanner.spells_float {value : Double} (reads : value.ReadsBack) :
    Spells Separated value.text.toList [.number (.float value)] := by
  obtain ⟨place, length, read⟩ := reads
  exact spells_single_number (solid_double value) read

end Lisplet
