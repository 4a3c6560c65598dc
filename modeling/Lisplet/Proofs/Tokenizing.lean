import Lisplet.Interpreter.Basic
import Lisplet.Proofs.LexicalGrammar

/-!
# The scanner accepts exactly the lexical grammar

A scanner between two tokens that comes to a piece of text goes over its gap, reads its
lexeme, and is between tokens again. Where no piece begins, it fails, and at a place
inside the text that is left. So it accepts a text if and only if that consists of pieces,
and its tokens are theirs.
-/

namespace Lisplet

namespace Scanner

open Lexical

abbrev between (place : Place) (read : List Token) : Scanner :=
  { place, mode := .gap, tokens := read }

variable {place begin : Place} {read : List Token} {text rest : List Char}

theorem run_within {kind : Place → List Char → ScanMode} {stays : Char → Bool}
    (stepped : ∀ (scanner : Scanner) begin read character, scanner.mode = kind begin read →
      stays character = true →
        scanner.step character = .ok (scanner.enter character (kind begin (character :: read))))
    {before : List Char} (all : ∀ character ∈ text, stays character = true) :
    Scanner.run ⟨place, kind begin before, read⟩ (text ++ rest) =
      Scanner.run ⟨behind place text, kind begin (text.reverse ++ before), read⟩ rest := by
  induction text generalizing place before with
  | nil => rfl
  | cons character text ih =>
      obtain ⟨here, later⟩ := List.forall_mem_cons.mp all
      rw [List.cons_append, run_cons (stepped _ begin before character rfl here)]
      unfold enter
      rw [ih later, behind_cons, List.reverse_cons, List.append_assoc]
      rfl

theorem run_comment_end (ends : EndsAt (· = '\n') rest) :
    Scanner.run ⟨place, .comment, read⟩ rest = (between place read).run rest := by
  cases rest with
  | nil => rfl
  | cons character rest =>
      obtain rfl := ends character rfl
      have left : Scanner.step ⟨place, .comment, read⟩ '\n' =
          .ok (between (place.after '\n') read) := rfl
      have right : (between place read).step '\n' = .ok (between (place.after '\n') read) := rfl
      rw [run_cons left, run_cons right]

theorem run_gap (gap : Gap text rest) :
    (between place read).run (text ++ rest) = (between (behind place text) read).run rest := by
  induction gap generalizing place with
  | nil => rfl
  | @blank character text rest blank more ih =>
      have stepped : (between place read).step character =
          .ok (between (place.after character) read) := by
        simp only [step, start, separates_iff.mp blank, if_true]
        rfl
      rw [List.cons_append, run_cons stepped, ih, behind_cons]
  | @comment line text rest inLine ends more ih =>
      have opened : (between place read).step ';' =
          .ok ⟨place.after ';', .comment, read⟩ := rfl
      have stepped (scanner : Scanner) (_ : Place) (_ : List Char) (character : Char)
          (mode : scanner.mode = .comment) (stays : (character != '\n') = true) :
          scanner.step character = .ok (scanner.enter character .comment) := by
        simp only [step, mode, if_neg (bne_iff_ne.mp stays)]
        rfl
      have stays : ∀ character ∈ line, (character != '\n') = true :=
        fun character member => bne_iff_ne.mpr (inLine character member)
      have skipped := @run_within (place.after ';') place read line (text ++ rest)
        (fun _ _ => .comment) (· != '\n') stepped [] stays
      rw [List.append_assoc, List.cons_append, run_cons opened, skipped, run_comment_end ends, ih,
        List.cons_append, behind_cons, behind_append]

theorem run_last_gap (gap : Gap text []) :
    (between place read).run text = .ok read.reverse := by
  have skipped := @run_gap place read _ _ gap
  rw [List.append_nil] at skipped
  exact skipped

theorem run_string_inside {written meant before : List Char} (inside : Inside written meant) :
    Scanner.run ⟨place, .string begin before, read⟩ (written ++ rest) =
      Scanner.run ⟨behind place written, .string begin (meant.reverse ++ before), read⟩ rest := by
  induction inside generalizing place before with
  | nil => rfl
  | @plain character written meant noQuote noBackslash more ih =>
      have stepped : Scanner.step ⟨place, .string begin before, read⟩ character =
          .ok ⟨place.after character, .string begin (character :: before), read⟩ := by
        simp only [step, if_neg noQuote, if_neg noBackslash]
        rfl
      rw [List.cons_append, run_cons stepped, ih, behind_cons, List.reverse_cons,
        List.append_assoc]
      rfl
  | @escape behind stands written meant known more ih =>
      have opened : Scanner.step ⟨place, .string begin before, read⟩ '\\' =
          .ok ⟨place.after '\\', .escape begin before, read⟩ := rfl
      have stepped : Scanner.step ⟨place.after '\\', .escape begin before, read⟩ behind =
          .ok ⟨(place.after '\\').after behind, .string begin (stands :: before), read⟩ := by
        simp only [step, mem_escapes.mp known]
        rfl
      rw [List.cons_append, List.cons_append, run_cons opened, run_cons stepped, ih,
        behind_cons, behind_cons, List.reverse_cons, List.append_assoc]
      rfl

theorem run_quote (text : List Char) :
    (between place read).run ('"' :: text) =
      Scanner.run ⟨place.after '"', .string place [], read⟩ text := by
  have opened : (between place read).step '"' = .ok ⟨place.after '"', .string place [], read⟩ := rfl
  exact run_cons opened text

theorem run_string_close (meant : List Char) :
    Scanner.run ⟨place, .string begin meant, read⟩ ('"' :: rest) =
      (between (place.after '"') (⟨.string (String.ofList meant.reverse), begin,
        place.offset + 1 - begin.offset⟩ :: read)).run rest := by
  have closed : Scanner.step ⟨place, .string begin meant, read⟩ '"' =
      .ok (between (place.after '"') (⟨.string (String.ofList meant.reverse), begin,
        place.offset + 1 - begin.offset⟩ :: read)) := rfl
  exact run_cons closed rest

theorem run_solid {first : Char} {more : List Char} (digit : first.isDigit = true)
    (solid : ∀ character ∈ more, isDelimiter character = false) :
    (between place read).run (first :: more ++ rest) =
      Scanner.run ⟨behind place (first :: more), .number place (first :: more).reverse, read⟩
        rest := by
  have begun : (between place read).step first =
      .ok ⟨place.after first, .number place [first], read⟩ :=
    start_number rfl digit (solid_digit digit)
  have stays : ∀ character ∈ more, (!isDelimiter character) = true :=
    fun character member => by rw [solid character member, Bool.not_false]
  rw [List.cons_append, run_cons begun, run_within step_number stays, behind_cons,
    List.reverse_cons]

/-- The token that the scanner is inside of ends before what follows. -/
structure Ends (scanner : Scanner) (rest : List Char) : Prop where
  finish : scanner.finish = scanner.settle >>= fun settled => pure settled.tokens.reverse
  step : ∀ next ∈ rest.head?,
    scanner.step next = scanner.settle >>= fun settled => settled.start next

theorem Ends.run_settled {scanner : Scanner} (ended : scanner.Ends rest)
    (settled : scanner.settle = .ok (between place read)) :
    scanner.run rest = (between place read).run rest := by
  cases rest with
  | nil =>
      have finished := ended.finish
      rw [settled] at finished
      exact finished
  | cons character rest =>
      have stepped := ended.step character rfl
      rw [settled] at stepped
      unfold run
      rw [List.foldlM_cons, List.foldlM_cons, stepped]
      rfl

theorem Ends.run_refused {scanner : Scanner} {error : ScanError} (ended : scanner.Ends rest)
    (refused : scanner.settle = .error error) : scanner.run rest = .error error := by
  cases rest with
  | nil =>
      have finished := ended.finish
      rw [refused] at finished
      exact finished
  | cons character rest =>
      have stepped := ended.step character rfl
      rw [refused] at stepped
      unfold run
      rw [List.foldlM_cons, stepped]
      rfl

theorem number_ends {digits : List Char} (ends : EndsAt Delimits rest) :
    Ends ⟨place, .number begin digits, read⟩ rest where
  finish := rfl
  step := by
    intro next first
    simp only [Scanner.step, delimits_iff.mp (ends next first), if_true]

theorem name_ends {letters : List Char} (ends : EndsAt (¬Continues ·) rest) :
    Ends ⟨place, .name begin letters, read⟩ rest where
  finish := rfl
  step := by
    intro next first
    have stops : continuesName next = false :=
      eq_false_of_ne_true (mt continues_iff.mpr (ends next first))
    simp only [Scanner.step, stops]
    rfl

theorem run_number_read {first : Char} {more : List Char} {value : Number}
    (digit : first.isDigit = true) (solid : ∀ character ∈ more, isDelimiter character = false)
    (ends : EndsAt Delimits rest) (valued : number (first :: more) place = .ok value) :
    (between place read).run (first :: more ++ rest) =
      (between (behind place (first :: more)) (⟨.number value, place, (first :: more).length⟩ ::
        read)).run rest := by
  rw [run_solid digit solid]
  refine (number_ends ends).run_settled ?_
  simp only [settle, List.reverse_reverse, valued, List.length_reverse]
  rfl

theorem run_number_refused {first : Char} {more : List Char} {error : ScanError}
    (digit : first.isDigit = true) (solid : ∀ character ∈ more, isDelimiter character = false)
    (ends : EndsAt Delimits rest) (refused : number (first :: more) place = .error error) :
    (between place read).run (first :: more ++ rest) = .error error := by
  rw [run_solid digit solid]
  refine (number_ends ends).run_refused ?_
  simp only [settle, List.reverse_reverse, refused]
  rfl

theorem run_word {first : Char} {more : List Char} (starts : Begins first)
    (continues : ∀ character ∈ more, Continues character) (ends : EndsAt (¬Continues ·) rest) :
    (between place read).run (first :: more ++ rest) =
      (between (behind place (first :: more)) (⟨nameLexeme (String.ofList (first :: more)), place,
        (first :: more).length⟩ :: read)).run rest := by
  rw [begins_iff] at starts
  obtain ⟨solid, noDigit⟩ := starts_name_solid starts
  have begun : (between place read).step first =
      .ok ⟨place.after first, .name place [first], read⟩ := by
    simp only [step, start_solid solid, noDigit, starts]
    rfl
  rw [List.cons_append, run_cons begun, run_within step_name fun character member =>
    continues_iff.mp (continues character member), ← behind_cons,
    ← List.reverse_cons]
  refine (name_ends ends).run_settled ?_
  rw [settle_name rfl, List.reverse_reverse, List.length_reverse]

theorem of_list_eq_iff {text : List Char} {word : String} :
    String.ofList text = word ↔ text = word.toList := by
  constructor
  · rintro rfl
    exact String.toList_ofList.symm
  · rintro rfl
    exact String.ofList_toList

theorem word_iff {text : List Char} {lexeme : Lexeme} :
    Word text lexeme ↔ nameLexeme (String.ofList text) = lexeme := by
  constructor
  · intro stands
    cases stands with
    | truth => rfl
    | falsehood => rfl
    | nothing => rfl
    | name noTruth noFalsehood noNothing =>
        unfold nameLexeme
        rw [if_neg (mt of_list_eq_iff.mp noTruth), if_neg (mt of_list_eq_iff.mp noFalsehood),
          if_neg (mt of_list_eq_iff.mp noNothing)]
  · rintro rfl
    unfold nameLexeme
    split_ifs with truth falsehood nothing
    · rw [of_list_eq_iff.mp truth]
      exact .truth
    · rw [of_list_eq_iff.mp falsehood]
      exact .falsehood
    · rw [of_list_eq_iff.mp nothing]
      exact .nothing
    · exact .name (mt of_list_eq_iff.mpr truth) (mt of_list_eq_iff.mpr falsehood)
        (mt of_list_eq_iff.mpr nothing)

theorem digits_value_eq (digits : List Char) :
    Decimal.digitsValue digits = Nat.ofDigitChars 10 digits 0 := by
  unfold Nat.ofDigitChars Decimal.digitsValue
  simp only [Nat.mul_comm]

theorem is_digits_iff {text : List Char} : isDigits text = true ↔ Digits text := by
  simp only [isDigits, Bool.and_eq_true, Bool.not_eq_true', List.isEmpty_eq_false_iff,
    List.all_eq_true]
  exact ⟨fun both => ⟨both.1, both.2⟩, fun digits => ⟨digits.some, digits.all⟩⟩

theorem digit_ne_point {text : List Char} (digits : Digits text) :
    ∀ character ∈ text, (character != '.') = true := by
  intro character member
  rw [bne_iff_ne]
  rintro rfl
  exact absurd (digits.all '.' member) (by decide)

theorem number_of_point {whole fraction : List Char}
    (before : ∀ character ∈ whole, (character != '.') = true) (begin : Place) :
    number (whole ++ '.' :: fraction) begin =
      if !isDigits whole || !isDigits fraction then
        .error (.malformedNumber (String.ofList (whole ++ '.' :: fraction)) begin)
      else .ok (.float (Double.ofDigits false whole fraction 0)) := by
  have taken : (whole ++ '.' :: fraction).takeWhile (· != '.') = whole := by
    rw [List.takeWhile_append_of_pos before, List.takeWhile_cons_of_neg (by decide),
      List.append_nil]
  have dropped : (whole ++ '.' :: fraction).dropWhile (· != '.') = '.' :: fraction := by
    rw [List.dropWhile_append_of_pos before, List.dropWhile_cons_of_neg (by decide)]
  unfold number
  rw [taken, dropped]

theorem number_of_no_point {text : List Char}
    (all : ∀ character ∈ text, (character != '.') = true) (begin : Place) :
    number text begin =
      if !isDigits text then .error (.malformedNumber (String.ofList text) begin)
      else if Number.digitLimit < text.length then .error (.tooManyDigits text.length)
      else .ok (.int (Decimal.digitsValue text)) := by
  unfold number
  rw [List.takeWhile_eq_self_iff.mpr all, List.dropWhile_eq_nil_iff.mpr all]

theorem number_of_digits {text : List Char} (digits : Digits text)
    (short : text.length ≤ Number.digitLimit) (begin : Place) :
    number text begin = .ok (.int (Nat.ofDigitChars 10 text 0)) := by
  rw [number_of_no_point (digit_ne_point digits), is_digits_iff.mpr digits,
    if_neg (Nat.not_lt.mpr short), digits_value_eq]
  rfl

theorem number_of_decimal {whole fraction : List Char} (before : Digits whole)
    (behind : Digits fraction) (begin : Place) :
    number (whole ++ '.' :: fraction) begin =
      .ok (.float (Double.ofDigits false whole fraction 0)) := by
  rw [number_of_point (digit_ne_point before), is_digits_iff.mpr before, is_digits_iff.mpr behind]
  rfl

theorem number_cases (text : List Char) (begin : Place) :
    (Digits text ∧ text.length ≤ Number.digitLimit) ∨
      (∃ whole fraction, text = whole ++ '.' :: fraction ∧ Digits whole ∧ Digits fraction) ∨
      (Digits text ∧ Number.digitLimit < text.length ∧
        number text begin = .error (.tooManyDigits text.length)) ∨
      number text begin = .error (.malformedNumber (String.ofList text) begin) := by
  obtain ⟨whole, rest, rfl, before, ends⟩ := exists_run (· != '.') text
  cases rest with
  | nil =>
      rw [List.append_nil]
      by_cases digits : isDigits whole = true
      · by_cases long : Number.digitLimit < whole.length
        · refine .inr (.inr (.inl ⟨is_digits_iff.mp digits, long, ?_⟩))
          rw [number_of_no_point before, digits, if_pos long]
          rfl
        · exact .inl ⟨is_digits_iff.mp digits, Nat.not_lt.mp long⟩
      · refine .inr (.inr (.inr ?_))
        rw [number_of_no_point before, eq_false_of_ne_true digits]
        rfl
  | cons point fraction =>
      obtain rfl := bne_eq_false_iff_eq.mp (ends point rfl)
      by_cases both : isDigits whole = true ∧ isDigits fraction = true
      · exact .inr (.inl ⟨whole, fraction, rfl, is_digits_iff.mp both.1, is_digits_iff.mp both.2⟩)
      · refine .inr (.inr (.inr ?_))
        rw [number_of_point before, if_pos]
        simp only [Bool.or_eq_true, Bool.not_eq_true']
        by_contra neither
        rw [not_or, Bool.not_eq_false, Bool.not_eq_false] at neither
        exact both neither

theorem run_lexeme {lexeme : Lexeme} (lexes : Lexes text lexeme rest) :
    (between place read).run (text ++ rest) =
      (between (behind place text) (⟨lexeme, place, text.length⟩ :: read)).run rest := by
  cases lexes with
  | openParen | closeParen | openBracket | closeBracket =>
      refine run_cons ?_ rest
      rfl
  | @string written meant inside =>
      have length : (behind (place.after '"') written).offset + 1 - place.offset =
          ('"' :: (written ++ ['"'])).length := by
        rw [offset_behind, offset_after, List.length_cons, List.length_append,
          List.length_singleton]
        omega
      rw [List.cons_append, List.append_assoc, run_quote, run_string_inside inside,
        List.singleton_append, run_string_close, List.append_nil, List.reverse_reverse, length,
        behind_cons, behind_append]
      rfl
  | integer digits short ends =>
      have valued := number_of_digits digits short place
      cases text with
      | nil => exact absurd rfl digits.some
      | cons first more =>
          obtain ⟨digit, others⟩ := List.forall_mem_cons.mp digits.all
          exact run_number_read digit (fun other member => solid_digit (others other member)) ends
            valued
  | @decimal whole fraction _ before behind ends =>
      have valued := number_of_decimal before behind place
      cases whole with
      | nil => exact absurd rfl before.some
      | cons first more =>
          obtain ⟨digit, others⟩ := List.forall_mem_cons.mp before.all
          refine run_number_read digit (fun other member => ?_) ends valued
          rcases List.mem_append.mp member with early | late
          · exact solid_digit (others other early)
          · rcases List.mem_cons.mp late with rfl | later
            · decide
            · exact solid_digit (behind.all other later)
  | word starts continues ends stands =>
      rw [run_word starts continues ends, word_iff.mp stands]

/-- Pieces are read one after the other. -/
theorem run_pieces {last : List Char} {pieces : List Piece} (reads : Reads text pieces last) :
    ∃ after : Place, after.offset + last.length = place.offset + text.length ∧
      (between place read).run text =
        (between after ((tokensOf place pieces).reverse ++ read)).run last := by
  induction reads generalizing place read with
  | done => exact ⟨place, rfl, rfl⟩
  | @piece gap text rest last lexeme pieces gapped lexes others ih =>
      obtain ⟨after, offset, ran⟩ := @ih (behind (behind place gap) text)
        (⟨lexeme, behind place gap, text.length⟩ :: read)
      refine ⟨after, ?_, ?_⟩
      · rw [offset, offset_behind, offset_behind, List.length_append, List.length_append]
        omega
      · rw [run_gap gapped, run_lexeme lexes, ran, tokensOf, List.reverse_cons, List.append_assoc]
        rfl

end Scanner

/-- The offset that an error points at; an integer that is too long has none. -/
def ScanError.offset? : ScanError → Option Nat
  | .invalidCharacter _ place => some place.offset
  | .invalidEscape _ offset => some offset
  | .unterminatedString start => some start.offset
  | .malformedNumber _ start => some start.offset
  | .tooManyDigits _ => none

theorem ScanError.diagnostic_position {error : ScanError} {offset : Nat}
    (points : error.offset? = some offset) (source : String) :
    ∃ diagnostic, error.diagnostic? source = some diagnostic ∧
      diagnostic.position = some (offset : Int) := by
  cases error with
  | tooManyDigits => cases points
  | invalidCharacter | invalidEscape | unterminatedString | malformedNumber =>
      cases points
      exact ⟨_, rfl, rfl⟩

namespace Lexical

/-- A text begins, behind a gap, with an integer of more digits than can be read. -/
def LongInteger (text : List Char) (count : Nat) : Prop :=
  ∃ gap digits rest, text = gap ++ (digits ++ rest) ∧ Gap gap (digits ++ rest) ∧ Digits digits ∧
    EndsAt Delimits rest ∧ digits.length = count ∧ Number.digitLimit < count

/-- An error points into a text that begins at an offset, or there is an integer in front
that is too long. -/
def Refused (base : Nat) (text : List Char) (error : ScanError) : Prop :=
  (∃ offset, error.offset? = some offset ∧ base ≤ offset ∧ offset < base + text.length) ∨
    ∃ count, error = .tooManyDigits count ∧ LongInteger text count

theorem Refused.here {place : Place} {error : ScanError} {character : Char} {rest : List Char}
    (points : error.offset? = some place.offset) :
    Refused place.offset (character :: rest) error := by
  refine .inl ⟨place.offset, points, Nat.le_refl _, ?_⟩
  rw [List.length_cons]
  omega

end Lexical

namespace Scanner

open Lexical

variable {text rest : List Char}

/-- No scanner between two tokens can go on with a text. -/
def Stuck (text : List Char) : Prop :=
  ∀ place read, ∃ error, (between place read).run text = .error error ∧
    Refused place.offset text error

theorem run_step_error {scanner : Scanner} {character : Char} {error : ScanError}
    (failed : scanner.step character = .error error) (rest : List Char) :
    scanner.run (character :: rest) = .error error := by
  unfold run
  rw [List.foldlM_cons, failed]
  rfl

theorem string_or_stuck (text : List Char) :
    (∃ literal lexeme rest, '"' :: text = literal ++ rest ∧ literal ≠ [] ∧
      Lexes literal lexeme rest) ∨ Stuck ('"' :: text) := by
  obtain ⟨written, meant, rest, rfl, inside, stops⟩ := exists_inside text
  rcases stops with rfl | ⟨more, rfl⟩ | ⟨more, rfl, unknown⟩
  · refine .inr fun place read => ⟨.unterminatedString place, ?_, Refused.here rfl⟩
    rw [run_quote, run_string_inside inside]
    rfl
  · refine .inl ⟨'"' :: (written ++ ['"']), _, more, ?_, List.cons_ne_nil _ _, .string inside more⟩
    rw [List.cons_append, List.append_assoc, List.singleton_append]
  · refine .inr fun place read => ?_
    have opened : Scanner.step
        ⟨behind (place.after '"') written, .string place (meant.reverse ++ []), read⟩ '\\' =
          .ok ⟨(behind (place.after '"') written).after '\\', .escape place (meant.reverse ++ []),
            read⟩ := rfl
    have offset : ((behind (place.after '"') written).after '\\').offset - 1 =
        place.offset + 1 + written.length := by
      rw [offset_after, offset_behind, offset_after]
      omega
    -- The error is at the backslash, also if nothing is behind it.
    have inText : Refused place.offset ('"' :: (written ++ '\\' :: more))
        (.invalidEscape more.head?
          (((behind (place.after '"') written).after '\\').offset - 1)) := by
      refine .inl ⟨_, rfl, ?_, ?_⟩
      · omega
      · rw [offset, List.length_cons, List.length_append, List.length_cons]
        omega
    refine ⟨_, ?_, inText⟩
    rw [run_quote, run_string_inside inside, run_cons opened]
    cases more with
    | nil => rfl
    | cons character more =>
        refine run_step_error ?_ more
        simp only [step, unknown character rfl]
        rfl

theorem number_or_stuck {first : Char} (digit : first.isDigit = true) (text : List Char) :
    (∃ literal lexeme rest, first :: text = literal ++ rest ∧ literal ≠ [] ∧
      Lexes literal lexeme rest) ∨ Stuck (first :: text) := by
  obtain ⟨more, rest, rfl, stays, stops⟩ := exists_run (fun other => !isDelimiter other) text
  have solid : ∀ character ∈ more, isDelimiter character = false := by
    intro character member
    have here := stays character member
    rw [Bool.not_eq_true'] at here
    exact here
  have ends : EndsAt Delimits rest := by
    intro next following
    have here : (!isDelimiter next) = false := stops next following
    rw [Bool.not_eq_false'] at here
    exact delimits_iff.mpr here
  -- Whether the text is a number does not depend on its place, only the error does.
  by_cases integer : Digits (first :: more) ∧ (first :: more).length ≤ Number.digitLimit
  · exact .inl ⟨first :: more, _, rest, rfl, List.cons_ne_nil _ _,
      .integer integer.1 integer.2 ends⟩
  by_cases decimal : ∃ whole fraction, first :: more = whole ++ '.' :: fraction ∧
      Digits whole ∧ Digits fraction
  · obtain ⟨whole, fraction, written, before, behind⟩ := decimal
    refine .inl ⟨whole ++ '.' :: fraction, _, rest, ?_, ?_, .decimal before behind ends⟩
    · rw [← written, List.cons_append]
    · rw [← written]
      exact List.cons_ne_nil _ _
  · refine .inr fun place read => ?_
    rcases number_cases (first :: more) place with short | point | ⟨digits, long, failed⟩ | failed
    · exact absurd short integer
    · exact absurd point decimal
    · refine ⟨_, run_number_refused digit solid ends failed, .inr ⟨_, rfl, ?_⟩⟩
      exact ⟨[], first :: more, rest, rfl, .nil _, digits, ends, rfl, long⟩
    · exact ⟨_, run_number_refused digit solid ends failed, Refused.here rfl⟩

/-- Where no gap begins, there is a lexeme, or nothing that can be read. -/
theorem lexeme_or_stuck {first : Char} (noGap : isGap first = false) (noComment : first ≠ ';')
    (text : List Char) :
    (∃ literal lexeme rest, first :: text = literal ++ rest ∧ literal ≠ [] ∧
      Lexes literal lexeme rest) ∨ Stuck (first :: text) := by
  cases bracket : bracket? first with
  | some lexeme =>
      refine .inl ⟨[first], lexeme, text, rfl, List.cons_ne_nil _ _, ?_⟩
      unfold bracket? at bracket
      split at bracket <;> cases bracket
      · exact .openParen text
      · exact .closeParen text
      · exact .openBracket text
      · exact .closeBracket text
  | none =>
      by_cases quote : first = '"'
      · rw [quote]
        exact string_or_stuck text
      by_cases digit : first.isDigit = true
      · exact number_or_stuck digit text
      by_cases starts : startsName first = true
      · obtain ⟨more, rest, rfl, continues, ends⟩ := exists_run continuesName text
        have goesOn : ∀ character ∈ more, Continues character :=
          fun character member => continues_iff.mpr (continues character member)
        have stops : EndsAt (¬Continues ·) rest :=
          fun next following goes =>
            Bool.false_ne_true ((ends next following).symm.trans (continues_iff.mp goes))
        exact .inl ⟨first :: more, _, rest, rfl, List.cons_ne_nil _ _,
          .word (begins_iff.mpr starts) goesOn stops (word_iff.mpr rfl)⟩
      · refine .inr fun place read => ⟨.invalidCharacter first place, ?_, Refused.here rfl⟩
        have solid := solid_of_no_bracket noGap noComment bracket quote
        refine run_step_error ?_ text
        simp only [step, start_solid solid, if_neg digit, if_neg starts]

theorem stuck_behind_gap {gap rest : List Char} (gapped : Gap gap rest) (stuck : Stuck rest) :
    Stuck (gap ++ rest) := by
  intro place read
  obtain ⟨error, failed, refused⟩ := stuck (behind place gap) read
  refine ⟨error, (run_gap gapped).trans failed, ?_⟩
  rcases refused with ⟨offset, points, lower, upper⟩ | ⟨count, same, long⟩
  · rw [offset_behind] at lower upper
    refine .inl ⟨offset, points, by omega, ?_⟩
    rw [List.length_append]
    omega
  · obtain ⟨inner, digits, more, rfl, between, others⟩ := long
    refine .inr ⟨count, same, gap ++ inner, digits, more, ?_, gapped.append between, others⟩
    rw [List.append_assoc]

/-- Every text begins with pieces, and behind them there is a last gap or nothing that
can be read. -/
theorem pieces_or_stuck (text : List Char) :
    ∃ pieces rest, Reads text pieces rest ∧ (Gap rest [] ∨ Stuck rest) := by
  induction whole : text.length using Nat.strongRecOn generalizing text with
  | ind size ih =>
      obtain ⟨gap, rest, rfl, gapped, solid⟩ := exists_gap text
      cases rest with
      | nil =>
          refine ⟨[], gap ++ [], .done _, .inl ?_⟩
          rw [List.append_nil]
          exact gapped
      | cons first text =>
          obtain ⟨noGap, noComment⟩ := solid first rfl
          rcases lexeme_or_stuck noGap noComment text with
            ⟨literal, lexeme, others, split, written, lexes⟩ | stuck
          · have shorter : others.length < size := by
              have positive := List.length_pos_iff.mpr written
              rw [← whole, split, List.length_append, List.length_append]
              omega
            obtain ⟨pieces, last, reads, ends⟩ := ih others.length shorter others rfl
            rw [split] at gapped ⊢
            exact ⟨⟨gap, literal, lexeme⟩ :: pieces, last, .piece gapped lexes reads, ends⟩
          · exact ⟨[], gap ++ first :: text, .done _, .inr (stuck_behind_gap gapped stuck)⟩

end Scanner

open Lexical

theorem tokenize_of_decomposes {source : String} {pieces : List Piece} {last : List Char}
    (decomposes : Decomposes source.toList pieces last) :
    tokenize source = .ok (tokensOf {} pieces) := by
  obtain ⟨after, -, ran⟩ := @Scanner.run_pieces {} [] _ _ _ decomposes.reads
  change (Scanner.between {} []).run source.toList = _
  rw [ran, Scanner.run_last_gap decomposes.gap, List.append_nil, List.reverse_reverse]

theorem decomposes_or_refused (source : String) :
    (∃ pieces last, Decomposes source.toList pieces last) ∨
      ∃ error pieces rest base, tokenize source = .error error ∧ Reads source.toList pieces rest ∧
        Refused base rest error ∧ base + rest.length = source.length := by
  obtain ⟨pieces, rest, reads, gap | stuck⟩ := Scanner.pieces_or_stuck source.toList
  · exact .inl ⟨pieces, rest, reads, gap⟩
  · obtain ⟨after, offset, ran⟩ := @Scanner.run_pieces {} [] _ _ _ reads
    obtain ⟨error, failed, refused⟩ := stuck after ((tokensOf {} pieces).reverse ++ [])
    refine .inr ⟨error, pieces, rest, after.offset, ran.trans failed, reads, refused, ?_⟩
    rw [offset, String.length_toList]
    exact Nat.zero_add _

theorem parse_source_of_refused {source : String} {error : ScanError} {offset : Nat}
    (failed : tokenize source = .error error) (points : error.offset? = some offset) :
    parseSource source = .error (.scan source error) := by
  unfold parseSource parse parseWithin
  rw [failed]
  cases error with
  | tooManyDigits => cases points
  | invalidCharacter | invalidEscape | unterminatedString | malformedNumber => rfl

/-- The scanner accepts exactly the lexical grammar. It reads a source if and only if that
consists of lexemes with gaps around them, and its tokens stand for those lexemes, in
order, each at its place and with its length. A source consists of them in one way only.
Every other source is refused, with an error at a position inside it; only an integer of
too many digits, which comes behind lexemes and gaps, is refused without a position. -/
theorem tokenize_accepts_exactly_the_lexical_grammar (source : String) :
    (∀ tokens, tokenize source = .ok tokens ↔
      ∃ pieces last, Decomposes source.toList pieces last ∧ tokens = tokensOf {} pieces) ∧
    (∀ pieces others last rest, Decomposes source.toList pieces last →
      Decomposes source.toList others rest → pieces = others ∧ last = rest) ∧
    (∀ error, tokenize source = .error error →
      (∃ diagnostic position, error.diagnostic? source = some diagnostic ∧
        diagnostic.position = some (Int.ofNat position) ∧ position < source.length ∧
        parseSource source = .error (.scan source error) ∧
        (RunError.scan source error).label = "PLispTokenError") ∨
      ∃ count pieces rest, error = .tooManyDigits count ∧ Reads source.toList pieces rest ∧
        LongInteger rest count) := by
  refine ⟨fun tokens => ⟨fun read => ?_, ?_⟩, ?_, fun error failed => ?_⟩
  · rcases decomposes_or_refused source with ⟨pieces, last, decomposes⟩ | ⟨error, -, -, -, failed, -⟩
    · rw [tokenize_of_decomposes decomposes] at read
      exact ⟨pieces, last, decomposes, (Except.ok.inj read).symm⟩
    · rw [failed] at read
      cases read
  · rintro ⟨pieces, last, decomposes, rfl⟩
    exact tokenize_of_decomposes decomposes
  · intro pieces others last rest left right
    have same : tokensOf {} pieces = tokensOf {} others :=
      Except.ok.inj ((tokenize_of_decomposes left).symm.trans (tokenize_of_decomposes right))
    exact left.reads.unique right.reads same
  · rcases decomposes_or_refused source with
      ⟨pieces, last, decomposes⟩ | ⟨other, pieces, rest, base, refused, reads, points, length⟩
    · rw [tokenize_of_decomposes decomposes] at failed
      cases failed
    · cases failed.symm.trans refused
      rcases points with ⟨offset, points, -, upper⟩ | ⟨count, same, long⟩
      · obtain ⟨diagnostic, told, position⟩ := error.diagnostic_position points source
        exact .inl ⟨diagnostic, offset, told, position, length ▸ upper,
          parse_source_of_refused failed points, rfl⟩
      · exact .inr ⟨count, pieces, rest, same, reads, long⟩

/-- A string with an escape, a name with symbols, and a comment that ends with the text. -/
theorem tokenize_accepts_exactly_the_lexical_grammar_comment :
    ∃ pieces last, Decomposes "[\"a\\n\", <=?-x 12;c".toList pieces last ∧
      tokensOf {} pieces =
        [⟨.openBracket, ⟨0, 1, 1⟩, 1⟩, ⟨.string "a\n", ⟨1, 1, 2⟩, 5⟩,
          ⟨.name "<=?-x", ⟨8, 1, 9⟩, 5⟩, ⟨.number (.int 12), ⟨14, 1, 15⟩, 2⟩] := by
  have read : tokenize "[\"a\\n\", <=?-x 12;c" =
      .ok [⟨.openBracket, ⟨0, 1, 1⟩, 1⟩, ⟨.string "a\n", ⟨1, 1, 2⟩, 5⟩,
        ⟨.name "<=?-x", ⟨8, 1, 9⟩, 5⟩, ⟨.number (.int 12), ⟨14, 1, 15⟩, 2⟩] := by
    decide +kernel
  obtain ⟨pieces, last, decomposes, same⟩ :=
    ((tokenize_accepts_exactly_the_lexical_grammar "[\"a\\n\", <=?-x 12;c").1 _).mp read
  exact ⟨pieces, last, decomposes, same.symm⟩

end Lisplet
