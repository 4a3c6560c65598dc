import Lisplet.Proofs.NestedParsing

/-!
# Incomplete input

A parser that has read whole forms goes on as if it had read nothing, so parsing in two
parts is parsing each. One that cannot finish lacks closing parentheses and nothing else,
and the one it asks for belongs to the last parenthesis that was left open.
-/

namespace Lisplet

/-- Every parenthesis has its partner among the tokens. Brackets do not count. -/
inductive Paired : List Token → Prop where
  | none : Paired []
  | word {token : Token} {rest : List Token} (opensNot : token.lexeme ≠ .openParen)
      (closesNot : token.lexeme ≠ .closeParen) (more : Paired rest) : Paired (token :: rest)
  | form {opening closing : Token} {inner rest : List Token}
      (opens : opening.lexeme = .openParen) (closes : closing.lexeme = .closeParen)
      (inside : Paired inner) (more : Paired rest) :
      Paired (opening :: (inner ++ closing :: rest))

/-- A parenthesis that is opened right before the tokens is closed among them. -/
def ClosedWithin (behind : List Token) : Prop :=
  ∃ inner closing rest, behind = inner ++ closing :: rest ∧ Paired inner ∧
    closing.lexeme = .closeParen

/-- The last opening parenthesis that has no matching one: every later one has. -/
def LastLeftOpen (tokens : List Token) (opening : Token) : Prop :=
  ∃ before behind, tokens = before ++ opening :: behind ∧ opening.lexeme = .openParen ∧
    ¬ClosedWithin behind ∧
    ∀ between later rest, behind = between ++ later :: rest → later.lexeme = .openParen →
      ClosedWithin rest

/-- How many parentheses are open behind the tokens, if no more are closed than there
were open before. -/
def levelBehind : Nat → List Token → Option Nat
  | level, [] => some level
  | level, token :: rest =>
      if token.lexeme = .openParen then levelBehind (level + 1) rest
      else if token.lexeme = .closeParen then
        if level = 0 then none else levelBehind (level - 1) rest
      else levelBehind level rest

namespace Paired

variable {tokens others : List Token}

theorem append (first : Paired tokens) (second : Paired others) : Paired (tokens ++ others) := by
  induction first with
  | none => exact second
  | word opensNot closesNot more ih => exact .word opensNot closesNot ih
  | form opens closes inside more insideIh moreIh =>
      rw [List.cons_append, List.append_assoc, List.cons_append]
      exact .form opens closes inside moreIh

theorem enclosed (opening closing : Mark) (inside : Paired tokens) :
    Paired (opening.token .openParen :: (tokens ++ [closing.token .closeParen])) :=
  .form rfl rfl inside .none

theorem of_words (words : ∀ token ∈ tokens, token.lexeme ≠ .openParen ∧
    token.lexeme ≠ .closeParen) : Paired tokens := by
  induction tokens with
  | nil => exact .none
  | cons token tokens ih =>
      obtain ⟨here, later⟩ := List.forall_mem_cons.mp words
      exact .word here.1 here.2 (ih later)

theorem level_behind (paired : Paired tokens) (level : Nat) (rest : List Token) :
    levelBehind level (tokens ++ rest) = levelBehind level rest := by
  induction paired generalizing level rest with
  | none => rfl
  | word opensNot closesNot more ih =>
      rw [List.cons_append, levelBehind, if_neg opensNot, if_neg closesNot, ih]
  | @form opening closing inner outside opens closes inside more insideIh moreIh =>
      have closesOne : levelBehind (level + 1) (closing :: (outside ++ rest)) =
          levelBehind level (outside ++ rest) := by
        simp [levelBehind, closes]
      rw [List.cons_append, levelBehind, if_pos opens, List.append_assoc, insideIh,
        List.cons_append, closesOne, moreIh]

theorem not_closed_within (paired : Paired tokens) : ¬ClosedWithin tokens := by
  rintro ⟨inner, closing, rest, rfl, inside, closes⟩
  have whole := paired.level_behind 0 []
  rw [List.append_nil, inside.level_behind] at whole
  simp [levelBehind, closes] at whole

theorem closed_within (paired : Paired tokens) {between rest : List Token} {later : Token}
    (split : tokens = between ++ later :: rest) (opens : later.lexeme = .openParen) :
    ClosedWithin rest := by
  induction paired generalizing between rest with
  | none => simp at split
  | word opensNot closesNot more ih =>
      cases between with
      | nil =>
          obtain ⟨rfl, rfl⟩ := List.cons.inj split
          exact absurd opens opensNot
      | cons first between => exact ih (List.cons.inj split).2
  | @form opening closing inner outside opensFirst closes inside more insideIh moreIh =>
      cases between with
      | nil =>
          obtain ⟨rfl, rfl⟩ := List.cons.inj split
          exact ⟨inner, closing, outside, rfl, inside, closes⟩
      | cons first between =>
          have closesNot : later ≠ closing := by
            rintro rfl
            rw [opens] at closes
            cases closes
          -- The later parenthesis stands inside the form or behind it.
          rcases List.append_eq_append_iff.mp (List.cons.inj split).2 with
            ⟨gap, rfl, ends⟩ | ⟨gap, rfl, ends⟩
          · cases gap with
            | nil => exact absurd (List.cons.inj ends).1.symm closesNot
            | cons head gap => exact moreIh (List.cons.inj ends).2
          · cases gap with
            | nil => exact absurd (List.cons.inj ends).1 closesNot
            | cons head gap =>
                obtain ⟨rfl, rfl⟩ := List.cons.inj ends
                obtain ⟨deep, end', wide, rfl, paired, closed⟩ := insideIh rfl
                exact ⟨deep, end', wide ++ closing :: outside, by simp, paired, closed⟩

/-- Where only paired tokens stand behind it, an opening parenthesis is the last one that
was left open. -/
theorem last_left_open (paired : Paired tokens) (before : List Token) {opening : Token}
    (opens : opening.lexeme = .openParen) : LastLeftOpen (before ++ opening :: tokens) opening :=
  ⟨before, tokens, rfl, opens, paired.not_closed_within,
    fun _ _ _ split opensLater => paired.closed_within split opensLater⟩

end Paired

namespace Phrase

theorem listed_paired (bracket : Mark) (parameters : List Label) (bracketEnd : Mark) :
    Paired (listed bracket parameters bracketEnd) := by
  apply Paired.of_words
  intro token member
  simp only [listed, List.mem_cons, List.mem_append, List.mem_map, List.not_mem_nil,
    or_false] at member
  rcases member with (rfl | ⟨label, -, rfl⟩) | rfl <;> simp [Mark.token, Label.token]

mutual

theorem tokens_paired (phrase : Phrase) : Paired phrase.tokens := by
  cases phrase with
  | define opening keyword name value closing =>
      have inside : Paired (keyword.token (.name "define") :: name.token :: value.tokens) :=
        .word nofun nofun (.word nofun nofun value.tokens_paired)
      exact inside.enclosed opening closing
  | procedure opening keyword name bracket parameters bracketEnd body closing =>
      have behind := (listed_paired bracket parameters bracketEnd).append (tokens_of_paired body)
      have inside : Paired (keyword.token (.name "define") :: name.token ::
          (listed bracket parameters bracketEnd ++ tokensOf body)) :=
        .word nofun nofun (.word nofun nofun behind)
      simpa [tokens] using inside.enclosed opening closing
  | branch opening keyword test consequent alternate closing =>
      have behind := test.tokens_paired.append
        (consequent.tokens_paired.append alternate.tokens_paired)
      have inside : Paired (keyword.token (.name "if") ::
          (test.tokens ++ (consequent.tokens ++ alternate.tokens))) := .word nofun nofun behind
      simpa [tokens] using inside.enclosed opening closing
  | quote opening keyword form closing =>
      have inside : Paired (keyword.token (.name "quote") :: form.tokens) :=
        .word nofun nofun form.tokens_paired
      exact inside.enclosed opening closing
  | lambda opening keyword bracket parameters bracketEnd body closing =>
      have behind := (listed_paired bracket parameters bracketEnd).append (tokens_of_paired body)
      have inside : Paired (keyword.token (.name "lambda") ::
          (listed bracket parameters bracketEnd ++ tokensOf body)) := .word nofun nofun behind
      simpa [tokens] using inside.enclosed opening closing
  | apply opening callee arguments closing =>
      have inside := callee.tokens_paired.append (tokens_of_paired arguments)
      simpa [tokens] using inside.enclosed opening closing
  | _ => exact .word nofun nofun .none

theorem tokens_of_paired (phrases : List Phrase) : Paired (tokensOf phrases) := by
  cases phrases with
  | nil => exact .none
  | cons phrase phrases => exact phrase.tokens_paired.append (tokens_of_paired phrases)

end

end Phrase

theorem Shape.Header.paired {shape : Shape} {header : List Token} (headed : shape.Header header) :
    Paired header := by
  cases headed with
  | application => exact .none
  | binding | conditional | quotation =>
      apply Paired.of_words
      simp [Mark.token, Label.token]
  | procedure keyword name bracket parameters bracketEnd =>
      exact .word nofun nofun
        (.word nofun nofun (Phrase.listed_paired bracket parameters bracketEnd))
  | lambda keyword bracket parameters bracketEnd =>
      exact .word nofun nofun (Phrase.listed_paired bracket parameters bracketEnd)

theorem Stage.Spelled.opened {stage : Stage} {ahead : List Token} (spelled : stage.Spelled ahead)
    (inside : stage ≠ .forms) :
    ∃ opening words, ahead = opening :: words ∧ opening.lexeme = .openParen ∧ Paired words ∧
      ∀ pending finished, (Parser.mk stage pending finished).innermost? = some opening := by
  have labels (parameters : List Label) : Paired (parameters.map Label.token) := by
    apply Paired.of_words
    intro token member
    obtain ⟨label, -, rfl⟩ := List.mem_map.mp member
    exact ⟨nofun, nofun⟩
  cases spelled with
  | forms => exact absurd rfl inside
  | head opens => exact ⟨_, _, rfl, opens, .none, fun _ _ => rfl⟩
  | naming opens keyword => exact ⟨_, _, rfl, opens, .word nofun nofun .none, fun _ _ => rfl⟩
  | named opens keyword name =>
      exact ⟨_, _, rfl, opens, .word nofun nofun (.word nofun nofun .none), fun _ _ => rfl⟩
  | listing opens keyword => exact ⟨_, _, rfl, opens, .word nofun nofun .none, fun _ _ => rfl⟩
  | procedure opens keyword name bracket parameters =>
      exact ⟨_, _, rfl, opens,
        .word nofun nofun (.word nofun nofun (.word nofun nofun (labels parameters))),
        fun _ _ => rfl⟩
  | lambda opens keyword bracket parameters =>
      exact ⟨_, _, rfl, opens, .word nofun nofun (.word nofun nofun (labels parameters)),
        fun _ _ => rfl⟩

namespace Parser

theorem Read.finish_error {parser : Parser} {tokens : List Token} (read : parser.Read tokens)
    {error : ParseError} (failed : parser.finish = .error error) :
    ∃ opening, error = .unterminated opening ∧ LastLeftOpen tokens opening := by
  obtain ⟨⟨held, ahead, holds, spelled, rfl⟩, -⟩ := read
  obtain ⟨stage, pending, finished⟩ := parser
  by_cases between : stage = .forms
  · subst between
    cases spelled
    obtain ⟨phrases, pendingTokens, -, -, around, rfl⟩ := holds
    cases around with
    | none => cases failed
    | @inside form outer header before gathered spelled around =>
        cases failed
        refine ⟨form.opening, rfl, ?_⟩
        have behind := spelled.header.paired.append (Phrase.tokens_of_paired gathered)
        simpa using behind.last_left_open (Phrase.tokensOf phrases ++ before) spelled.opening
  · obtain ⟨opening, words, rfl, opens, paired, innermost⟩ := spelled.opened between
    unfold Parser.finish at failed
    rw [innermost pending finished] at failed
    cases failed
    exact ⟨opening, rfl, paired.last_left_open held opens⟩

theorem read_form_terminated {parser : Parser} {token opening : Token} :
    parser.readForm token ≠ .error (.unterminated opening) := by
  intro failed
  unfold readForm at failed
  split at failed
  case h_2 =>
    split at failed
    next => cases failed
    next form outer pending =>
      cases closed : form.close with
      | ok tree =>
          rw [closed] at failed
          cases failed
      | error cause =>
          rw [closed] at failed
          cases failed
          unfold OpenForm.close at closed
          dsimp only at closed
          split at closed <;> cases closed
  all_goals cases failed

/-- Only the end of all tokens leaves a form open. -/
theorem step_terminated {parser : Parser} {token opening : Token} :
    parser.step token ≠ .error (.unterminated opening) := by
  intro failed
  unfold step at failed
  split at failed
  next => exact read_form_terminated failed
  next =>
    split at failed
    next => cases failed
    next => exact read_form_terminated failed
  next => split at failed <;> cases failed
  next =>
    split at failed
    next => cases failed
    next => exact read_form_terminated failed
  next => split at failed <;> cases failed
  next => split at failed <;> cases failed

theorem fold_terminated {parser : Parser} {tokens : List Token} {opening : Token} :
    tokens.foldlM step parser ≠ .error (.unterminated opening) := by
  intro failed
  induction tokens generalizing parser with
  | nil => cases failed
  | cons token tokens ih =>
      rw [List.foldlM_cons] at failed
      cases stepped : parser.step token with
      | error error =>
          rw [stepped] at failed
          cases failed
          exact step_terminated stepped
      | ok next =>
          rw [stepped] at failed
          exact ih failed

def behind (done : List Expr) (parser : Parser) : Parser :=
  { parser with finished := parser.finished ++ done }

variable (done : List Expr)

theorem deliver_behind (parser : Parser) (expression : Expr) :
    (parser.behind done).deliver expression = (parser.deliver expression).behind done := by
  obtain ⟨stage, pending, finished⟩ := parser
  cases pending <;> rfl

theorem read_form_behind (parser : Parser) (token : Token) :
    (parser.behind done).readForm token = behind done <$> parser.readForm token := by
  obtain ⟨stage, pending, finished⟩ := parser
  unfold readForm
  cases token.lexeme with
  | closeParen =>
      cases pending with
      | nil => rfl
      | cons form outer =>
          dsimp only [behind]
          cases form.close with
          | error error => rfl
          | ok tree => exact congrArg Except.ok (deliver_behind done ⟨stage, outer, finished⟩ tree)
  | openParen | openBracket | closeBracket => rfl
  | name | number | string | boolean | nil => exact congrArg Except.ok (deliver_behind done _ _)

theorem step_behind (parser : Parser) (token : Token) :
    (parser.behind done).step token = behind done <$> parser.step token := by
  obtain ⟨stage, pending, finished⟩ := parser
  unfold step
  cases stage with
  | forms => exact read_form_behind done _ token
  | head opening =>
      dsimp only [behind]
      cases specialForm? token with
      | none =>
          exact read_form_behind done
            (gather ⟨.head opening, pending, finished⟩ opening .application) token
      | some form => cases form <;> rfl
  | named opening name =>
      dsimp only [behind]
      cases token.lexeme with
      | openBracket => rfl
      | _ =>
          exact read_form_behind done
            (gather ⟨.named opening name, pending, finished⟩ opening (.binding name)) token
  | naming | listing | parameters =>
      dsimp only [behind]
      cases token.lexeme <;> rfl

theorem step_within_behind (limit : Nat) (parser : Parser) (token : Token) :
    (parser.behind done).stepWithin limit token =
      behind done <$> parser.stepWithin limit token := by
  unfold stepWithin
  rw [step_behind]
  cases parser.step token with
  | error error => rfl
  | ok next =>
      have same : (next.behind done).openForms = next.openForms := rfl
      change (if (next.behind done).openForms ≤ limit then Except.ok (next.behind done)
        else .error ParseFailure.tooDeep) = _
      rw [same]
      dsimp only
      split <;> rfl

theorem fold_behind (limit : Nat) (parser : Parser) (tokens : List Token) :
    tokens.foldlM (stepWithin limit) (parser.behind done) =
      behind done <$> tokens.foldlM (stepWithin limit) parser := by
  induction tokens generalizing parser with
  | nil => rfl
  | cons token tokens ih =>
      rw [List.foldlM_cons, List.foldlM_cons, step_within_behind]
      cases parser.stepWithin limit token with
      | error error => rfl
      | ok next => exact ih next

theorem finish_behind (parser : Parser) :
    (parser.behind done).finish = (done.reverse ++ ·) <$> parser.finish := by
  obtain ⟨stage, pending, finished⟩ := parser
  unfold finish
  have same : innermost? (behind done ⟨stage, pending, finished⟩) =
      innermost? ⟨stage, pending, finished⟩ := rfl
  rw [same]
  cases innermost? ⟨stage, pending, finished⟩ with
  | some opening => rfl
  | none => exact congrArg Except.ok List.reverse_append

theorem eq_behind_of_finish {parser : Parser} {trees : List Expr}
    (finished : parser.finish = .ok trees) : parser = behind trees.reverse {} := by
  obtain ⟨stage, pending, done⟩ := parser
  cases stage with
  | forms =>
      cases pending with
      | nil =>
          cases finished
          simp [behind]
      | cons form outer => cases finished
  | _ => cases finished

end Parser

section Cuts

variable {limit : Nat} {tokens more : List Token}

theorem parse_tokens_of_fold {parser : Parser}
    (read : tokens.foldlM (Parser.stepWithin limit) {} = .ok parser) :
    parseTokens limit tokens = parser.finish.mapError .refused := by
  unfold parseTokens
  rw [read]
  rfl

theorem parse_tokens_append_of_ok {trees : List Expr}
    (parsed : parseTokens limit tokens = .ok trees) (more : List Token) :
    parseTokens limit (tokens ++ more) = (trees ++ ·) <$> parseTokens limit more := by
  cases read : tokens.foldlM (Parser.stepWithin limit) {} with
  | error failure =>
      unfold parseTokens at parsed
      rw [read] at parsed
      cases parsed
  | ok parser =>
      have finished : parser.finish = .ok trees := by
        rw [parse_tokens_of_fold read] at parsed
        cases ended : parser.finish with
        | error error =>
            rw [ended] at parsed
            cases parsed
        | ok others =>
            rw [ended] at parsed
            cases parsed
            rfl
      unfold parseTokens
      rw [List.foldlM_append, read, Parser.ok_bind, Parser.eq_behind_of_finish finished,
        Parser.fold_behind]
      cases more.foldlM (Parser.stepWithin limit) {} with
      | error failure => rfl
      | ok last =>
          have ends := Parser.finish_behind trees.reverse last
          rw [List.reverse_reverse] at ends
          change (Parser.behind trees.reverse last).finish.mapError ParseFailure.refused =
            (trees ++ ·) <$> last.finish.mapError ParseFailure.refused
          rw [ends]
          cases last.finish <;> rfl

/-- Tokens that cannot be parsed, but can with more behind them, leave a form open. -/
theorem unterminated_of_completed {trees : List Expr} {failure : ParseFailure}
    (failed : parseTokens limit tokens = .error failure)
    (completed : parseTokens limit (tokens ++ more) = .ok trees) :
    ∃ opening, failure = .refused (.unterminated opening) := by
  cases read : tokens.foldlM (Parser.stepWithin limit) {} with
  | error stopped =>
      unfold parseTokens at completed
      rw [List.foldlM_append, read] at completed
      cases completed
  | ok parser =>
      rw [parse_tokens_of_fold read] at failed
      have reads := Parser.read_start.fold tokens
      rw [Parser.fold_of_within (Nat.zero_le limit) read] at reads
      cases ended : parser.finish with
      | ok others =>
          rw [ended] at failed
          cases failed
      | error error =>
          rw [ended] at failed
          obtain ⟨opening, rfl, -⟩ := reads.finish_error ended
          cases failed
          exact ⟨opening, rfl⟩

theorem last_left_open_of_unterminated {opening : Token}
    (failed : parseTokens limit tokens = .error (.refused (.unterminated opening))) :
    LastLeftOpen tokens opening := by
  have unread := read_tokens_of_refused failed
  have reads := Parser.read_start.fold tokens
  unfold readTokens at unread
  cases read : tokens.foldlM Parser.step {} with
  | error stopped =>
      rw [read] at unread
      cases unread
      exact absurd read Parser.fold_terminated
  | ok parser =>
      rw [read] at unread reads
      obtain ⟨_, ⟨⟩, left⟩ := reads.finish_error unread
      exact left

end Cuts

def unterminatedMessage : String := "Unterminated list - missing closing parenthesis"

def ParseError.beginning : ParseError → String
  | .unexpected _ => "Unexpected token: "
  | .emptyApplication _ => "Empty application: ()"
  | .malformed .. => "Malformed "
  | .wrongCount form .. => form.keyword
  | .badParameter _ => "Parameter must be a name: "
  | .unterminated _ => unterminatedMessage

theorem ParseError.message_begins (error : ParseError) (source : String) :
    ∃ rest, (error.diagnostic source).message = error.beginning ++ rest := by
  cases error with
  | unexpected token => exact ⟨token.lexeme.plainText, rfl⟩
  | badParameter token => exact ⟨token.lexeme.plainText, rfl⟩
  | emptyApplication | unterminated => exact ⟨"", String.append_empty.symm⟩
  | malformed form opening token =>
      refine ⟨form.keyword ++ (" at " ++ placeText opening), ?_⟩
      rw [← String.append_assoc, ← String.append_assoc]
      rfl
  | wrongCount form opening expected given =>
      refine ⟨" expects " ++ (toString expected ++ " form(s)" ++ (", got " ++ toString given)), ?_⟩
      rw [← String.append_assoc, ← String.append_assoc, ← String.append_assoc]
      rfl

def otherBeginnings : List String :=
  ["Unexpected token: ", "Empty application: ()", "Malformed ", "define", "if", "quote", "lambda",
    "Parameter must be a name: "]

theorem ParseError.beginning_cases (error : ParseError) :
    (∃ opening, error = .unterminated opening) ∨ error.beginning ∈ otherBeginnings := by
  cases error with
  | unterminated opening => exact .inl ⟨opening, rfl⟩
  | wrongCount form => cases form <;> simp [beginning, otherBeginnings, SpecialForm.keyword]
  | unexpected | emptyApplication | malformed | badParameter =>
      simp [beginning, otherBeginnings]

theorem ParseError.unterminated_of_message {error : ParseError} {source : String}
    (told : (error.diagnostic source).message = unterminatedMessage) :
    ∃ opening, error = .unterminated opening := by
  refine error.beginning_cases.resolve_right fun other => ?_
  obtain ⟨rest, begins⟩ := error.message_begins source
  have starts : error.beginning.toList.isPrefixOf unterminatedMessage.toList = true := by
    rw [← told, begins, String.toList_append]
    exact List.isPrefixOf_iff_prefix.mpr (List.prefix_append _ _)
  have apart : otherBeginnings.all fun first =>
      !first.toList.isPrefixOf unterminatedMessage.toList := by decide +kernel
  have differs := List.all_eq_true.mp apart _ other
  rw [starts] at differs
  cases differs

/-- Incomplete input is recognised, whatever the limit on nesting. Tokens that can be parsed
do not take part in what comes after them: the whole then gives their forms, followed by the
forms of the rest or failing as the rest does. Tokens that fail and can be completed fail for
want of a closing parenthesis and for no other reason. And a parse that fails for that reason
is blamed on the last opening parenthesis that has no matching one, where its position is
reported. -/
theorem incomplete_input_recognised (limit : Nat) (tokens more : List Token) (source : String) :
    (∀ trees, parseTokens limit tokens = .ok trees →
      (∀ others, parseTokens limit more = .ok others →
        parseTokens limit (tokens ++ more) = .ok (trees ++ others)) ∧
      ∀ failure, parseTokens limit more = .error failure →
        parseTokens limit (tokens ++ more) = .error failure) ∧
    (∀ failure trees, parseTokens limit tokens = .error failure →
      parseTokens limit (tokens ++ more) = .ok trees →
        ∃ error, failure = .refused error ∧
          (error.diagnostic source).message = unterminatedMessage) ∧
    (∀ error, parseTokens limit tokens = .error (.refused error) →
      (error.diagnostic source).message = unterminatedMessage →
        ∃ opening, LastLeftOpen tokens opening ∧
          (error.diagnostic source).position = some (opening.place.offset : Int)) := by
  refine ⟨fun trees parsed => ?_, fun failure trees failed completed => ?_,
    fun error failed told => ?_⟩
  · have whole := parse_tokens_append_of_ok parsed more
    refine ⟨fun others rest => ?_, fun failure rest => ?_⟩
    · rw [whole, rest]
      rfl
    · rw [whole, rest]
      rfl
  · obtain ⟨opening, rfl⟩ := unterminated_of_completed failed completed
    exact ⟨_, rfl, rfl⟩
  · obtain ⟨opening, rfl⟩ := ParseError.unterminated_of_message told
    exact ⟨opening, last_left_open_of_unterminated failed, rfl⟩

/-- The tokens of `(define f [x] (g (h x)`, which lack two parentheses. -/
def brokenOff : List Token :=
  [⟨.openParen, ⟨0, 1, 1⟩, 1⟩, ⟨.name "define", ⟨1, 1, 2⟩, 6⟩, ⟨.name "f", ⟨8, 1, 9⟩, 1⟩,
    ⟨.openBracket, ⟨10, 1, 11⟩, 1⟩, ⟨.name "x", ⟨11, 1, 12⟩, 1⟩,
    ⟨.closeBracket, ⟨12, 1, 13⟩, 1⟩, ⟨.openParen, ⟨14, 1, 15⟩, 1⟩, ⟨.name "g", ⟨15, 1, 16⟩, 1⟩,
    ⟨.openParen, ⟨17, 1, 18⟩, 1⟩, ⟨.name "h", ⟨18, 1, 19⟩, 1⟩, ⟨.name "x", ⟨20, 1, 21⟩, 1⟩,
    ⟨.closeParen, ⟨21, 1, 22⟩, 1⟩]

def missingEnd : List Token :=
  [⟨.closeParen, ⟨22, 1, 23⟩, 1⟩, ⟨.closeParen, ⟨23, 1, 24⟩, 1⟩]

/-- The innermost form is closed, so the one around it is blamed. -/
theorem incomplete_input_recognised_broken_off :
    ∃ error trees opening, parseTokens nestingLimit brokenOff = .error (.refused error) ∧
      parseTokens nestingLimit (brokenOff ++ missingEnd) = .ok trees ∧
      (error.diagnostic "").message = unterminatedMessage ∧
      LastLeftOpen brokenOff opening ∧ opening.place.offset = 14 := by
  have failed : parseTokens nestingLimit brokenOff =
      .error (.refused (.unterminated ⟨.openParen, ⟨14, 1, 15⟩, 1⟩)) := by rfl
  have completed : (parseTokens nestingLimit (brokenOff ++ missingEnd)).toOption.isSome := by rfl
  cases parsed : parseTokens nestingLimit (brokenOff ++ missingEnd) with
  | error failure =>
      rw [parsed] at completed
      cases completed
  | ok trees =>
      obtain ⟨-, completes, blames⟩ :=
        incomplete_input_recognised nestingLimit brokenOff missingEnd ""
      obtain ⟨_, ⟨⟩, told⟩ := completes _ trees failed parsed
      obtain ⟨opening, left, position⟩ := blames _ failed told
      exact ⟨_, trees, opening, failed, rfl, told, left,
        Int.ofNat.inj (Option.some.inj position).symm⟩

end Lisplet
