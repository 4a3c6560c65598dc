import Lisplet.Proofs.PhraseReading

/-!
# The parser reads nothing but the grammar

Whatever the parser has become after a row of tokens, the tokens it has read are those
of its finished phrases, of its open forms and of its stage. So a parser that finishes
has read a program, and one that stops is stopped by a token it has read.
-/

namespace Lisplet

theorem Token.exists_mark {token : Token} {lexeme : Lexeme} (spelled : token.lexeme = lexeme) :
    ∃ mark : Mark, token = mark.token lexeme := by
  refine ⟨⟨token.place, token.length⟩, ?_⟩
  rw [← spelled]
  rfl

/-- The tokens between the opening parenthesis of a form and what it gathers. -/
inductive Shape.Header : Shape → List Token → Prop where
  | application : Header .application []
  | binding (keyword : Mark) (name : Label) :
      Header (.binding name.text) [keyword.token (.name "define"), name.token]
  | conditional (keyword : Mark) : Header .conditional [keyword.token (.name "if")]
  | quotation (keyword : Mark) : Header .quotation [keyword.token (.name "quote")]
  | procedure (keyword : Mark) (name : Label) (bracket : Mark) (parameters : List Label)
      (bracketEnd : Mark) :
      Header (.procedure (some name.text) (parameters.map Label.text))
        (keyword.token (.name "define") :: name.token ::
          Phrase.listed bracket parameters bracketEnd)
  | lambda (keyword bracket : Mark) (parameters : List Label) (bracketEnd : Mark) :
      Header (.procedure none (parameters.map Label.text))
        (keyword.token (.name "lambda") :: Phrase.listed bracket parameters bracketEnd)

/-- The tokens that an open form was read from: its head, then whole phrases. The
first phrase of an application is not led by a keyword. -/
structure OpenForm.Spelled (form : OpenForm) (header : List Token) (phrases : List Phrase) :
    Prop where
  opening : form.opening.lexeme = .openParen
  header : form.shape.Header header
  proper : Phrase.AllProper phrases
  trees : Phrase.treesOf phrases = form.gathered.reverse
  ordinary : form.shape = .application →
    ∀ first ∈ (Phrase.tokensOf phrases).head?, ¬first.IsKeyword

theorem OpenForm.Spelled.close {form : OpenForm} {header : List Token} {phrases : List Phrase}
    (spelled : form.Spelled header phrases) {closing : Token} {tree : Expr}
    (closes : closing.lexeme = .closeParen) (closed : form.close = .ok tree) :
    ∃ phrase : Phrase, phrase.Proper ∧ phrase.tree = tree ∧
      phrase.tokens = form.opening :: header ++ Phrase.tokensOf phrases ++ [closing] := by
  obtain ⟨opening, opened⟩ := Token.exists_mark spelled.opening
  obtain ⟨last, rfl⟩ := Token.exists_mark closes
  obtain ⟨form, shape, gathered⟩ := form
  have proper := spelled.proper
  have trees := spelled.trees
  have ordinary := spelled.ordinary
  have headed := spelled.header
  dsimp only at opened trees ordinary headed ⊢
  subst opened
  unfold OpenForm.close at closed
  dsimp only at closed
  rw [← trees] at closed
  cases headed with
  | application =>
      cases phrases with
      | nil => cases closed
      | cons callee arguments =>
          cases closed
          refine ⟨.apply opening callee arguments last, ⟨?_, proper⟩, rfl, ?_⟩
          · intro first leads
            apply ordinary rfl first
            obtain ⟨token, more, opens, -⟩ := callee.tokens_open
            simpa [Phrase.tokensOf, opens] using leads
          · simp [Phrase.tokens, Phrase.tokensOf]
  | binding keyword name =>
      cases phrases with
      | nil => cases closed
      | cons value others =>
          cases others with
          | nil =>
              cases closed
              exact ⟨.define opening keyword name value last, proper.1, rfl,
                by simp [Phrase.tokens, Phrase.tokensOf]⟩
          | cons other others => cases closed
  | conditional keyword =>
      match phrases with
      | [] => cases closed
      | [_] => cases closed
      | [_, _] => cases closed
      | [test, consequent, alternate] =>
          cases closed
          exact ⟨.branch opening keyword test consequent alternate last,
            ⟨proper.1, proper.2.1, proper.2.2.1⟩, rfl,
            by simp [Phrase.tokens, Phrase.tokensOf]⟩
      | _ :: _ :: _ :: _ :: _ => cases closed
  | quotation keyword =>
      cases phrases with
      | nil => cases closed
      | cons quoted others =>
          cases others with
          | nil =>
              cases closed
              exact ⟨.quote opening keyword quoted last, proper.1, rfl,
                by simp [Phrase.tokens, Phrase.tokensOf]⟩
          | cons other others => cases closed
  | procedure keyword name bracket parameters bracketEnd =>
      cases closed
      exact ⟨.procedure opening keyword name bracket parameters bracketEnd phrases last, proper,
        rfl, by simp [Phrase.tokens]⟩
  | lambda keyword bracket parameters bracketEnd =>
      cases closed
      exact ⟨.lambda opening keyword bracket parameters bracketEnd phrases last, proper, rfl,
        by simp [Phrase.tokens]⟩

/-- The tokens that open forms were read from, the outermost first. -/
inductive OpenForm.AllSpelled : List OpenForm → List Token → Prop where
  | none : AllSpelled [] []
  | inside {form : OpenForm} {outer : List OpenForm} {header before : List Token}
      {phrases : List Phrase} (spelled : form.Spelled header phrases)
      (around : AllSpelled outer before) :
      AllSpelled (form :: outer)
        (before ++ (form.opening :: header ++ Phrase.tokensOf phrases))

/-- The tokens behind the last whole phrase or open form. -/
inductive Stage.Spelled : Stage → List Token → Prop where
  | forms : Spelled .forms []
  | head {opening : Token} (opens : opening.lexeme = .openParen) :
      Spelled (.head opening) [opening]
  | naming {opening : Token} (opens : opening.lexeme = .openParen) (keyword : Mark) :
      Spelled (.naming opening) [opening, keyword.token (.name "define")]
  | named {opening : Token} (opens : opening.lexeme = .openParen) (keyword : Mark)
      (name : Label) :
      Spelled (.named opening name.text)
        [opening, keyword.token (.name "define"), name.token]
  | listing {opening : Token} (opens : opening.lexeme = .openParen) (keyword : Mark) :
      Spelled (.listing opening) [opening, keyword.token (.name "lambda")]
  | procedure {opening : Token} (opens : opening.lexeme = .openParen) (keyword : Mark)
      (name : Label) (bracket : Mark) (parameters : List Label) :
      Spelled (.parameters opening (some name.text) (parameters.map Label.text).reverse)
        (opening :: keyword.token (.name "define") :: name.token ::
          bracket.token .openBracket :: parameters.map Label.token)
  | lambda {opening : Token} (opens : opening.lexeme = .openParen) (keyword bracket : Mark)
      (parameters : List Label) :
      Spelled (.parameters opening none (parameters.map Label.text).reverse)
        (opening :: keyword.token (.name "lambda") :: bracket.token .openBracket ::
          parameters.map Label.token)

namespace Parser

/-- The tokens of the finished phrases and the open forms. -/
def Holds (parser : Parser) (tokens : List Token) : Prop :=
  ∃ phrases pendingTokens, Phrase.AllProper phrases ∧
    Phrase.treesOf phrases = parser.finished.reverse ∧
    OpenForm.AllSpelled parser.pending pendingTokens ∧
    tokens = Phrase.tokensOf phrases ++ pendingTokens

/-- A token may lead the next expression: a keyword may not lead an application. -/
def Welcomes (parser : Parser) (token : Token) : Prop :=
  ∀ form ∈ parser.pending.head?, form.shape = .application → form.gathered = [] →
    ¬token.IsKeyword

/-- All tokens that the parser has read. Between expressions the innermost
application has its callee already. -/
structure Read (parser : Parser) (tokens : List Token) : Prop where
  spelled : ∃ held ahead, parser.Holds held ∧ parser.stage.Spelled ahead ∧ tokens = held ++ ahead
  settled : parser.stage = .forms → ∀ token, parser.Welcomes token

theorem read_start : ({} : Parser).Read [] :=
  ⟨⟨[], [], ⟨[], [], trivial, rfl, .none, rfl⟩, .forms, rfl⟩,
    fun _ _ form member => by simp at member⟩

end Parser

theorem Phrase.trees_of_append (phrases others : List Phrase) :
    Phrase.treesOf (phrases ++ others) = Phrase.treesOf phrases ++ Phrase.treesOf others := by
  induction phrases with
  | nil => rfl
  | cons phrase phrases ih => simp [Phrase.treesOf, ih]

theorem Phrase.tokens_of_append (phrases others : List Phrase) :
    Phrase.tokensOf (phrases ++ others) = Phrase.tokensOf phrases ++ Phrase.tokensOf others := by
  induction phrases with
  | nil => rfl
  | cons phrase phrases ih => simp [Phrase.tokensOf, ih]

theorem Phrase.all_proper_append {phrases others : List Phrase}
    (proper : Phrase.AllProper phrases) (otherProper : Phrase.AllProper others) :
    Phrase.AllProper (phrases ++ others) := by
  induction phrases with
  | nil => exact otherProper
  | cons phrase phrases ih => exact ⟨proper.1, ih proper.2⟩

namespace Parser

theorem Holds.deliver {parser : Parser} {held : List Token} (holds : parser.Holds held)
    (phrase : Phrase) (proper : phrase.Proper)
    (welcome : ∀ first ∈ phrase.tokens.head?, parser.Welcomes first) :
    (parser.deliver phrase.tree).Read (held ++ phrase.tokens) := by
  obtain ⟨phrases, pendingTokens, allProper, trees, around, rfl⟩ := holds
  obtain ⟨stage, pending, finished⟩ := parser
  dsimp only at trees around
  cases around with
  | none =>
      refine ⟨⟨Phrase.tokensOf (phrases ++ [phrase]), [], ⟨phrases ++ [phrase], [], ?_, ?_, .none,
        ?_⟩, .forms, ?_⟩, ?_⟩
      · exact Phrase.all_proper_append allProper ⟨proper, trivial⟩
      · simp [Phrase.trees_of_append, Phrase.treesOf, trees, Parser.deliver]
      · simp
      · simp [Phrase.tokens_of_append, Phrase.tokensOf]
      · intro _ token form member
        simp [Parser.deliver] at member
  | @inside form outer header before gathered spelled around =>
      have joined : OpenForm.Spelled { form with gathered := phrase.tree :: form.gathered } header
          (gathered ++ [phrase]) := by
        refine ⟨spelled.opening, spelled.header, ?_, ?_, ?_⟩
        · exact Phrase.all_proper_append spelled.proper ⟨proper, trivial⟩
        · simp [Phrase.trees_of_append, Phrase.treesOf, spelled.trees]
        · intro application first leads
          cases gathered with
          | nil =>
              have none : form.gathered = [] := by
                simpa [Phrase.treesOf] using spelled.trees
              have led : first ∈ phrase.tokens.head? := by
                simpa [Phrase.tokensOf] using leads
              exact welcome first led form rfl application none
          | cons other others =>
              apply spelled.ordinary application first
              obtain ⟨token, more, opens, -⟩ := other.tokens_open
              simpa [Phrase.tokensOf, opens] using leads
      refine ⟨⟨_, [], ⟨phrases, _, allProper, trees, .inside joined around, rfl⟩, .forms, ?_⟩, ?_⟩
      · simp [Phrase.tokens_of_append, Phrase.tokensOf]
      · intro _ token other member application empty
        simp only [Parser.deliver, List.head?_cons, Option.mem_def, Option.some.injEq] at member
        subst member
        cases empty

theorem Holds.gather {parser : Parser} {held : List Token} (holds : parser.Holds held)
    {opening : Token} (opens : opening.lexeme = .openParen) {shape : Shape} {header : List Token}
    (headed : shape.Header header) :
    (parser.gather opening shape).Holds (held ++ (opening :: header)) := by
  obtain ⟨phrases, pendingTokens, proper, trees, around, rfl⟩ := holds
  have fresh : OpenForm.Spelled ⟨opening, shape, []⟩ header [] :=
    ⟨opens, headed, trivial, rfl, fun _ first leads => by simp [Phrase.tokensOf] at leads⟩
  refine ⟨phrases, _, proper, trees, .inside fresh around, ?_⟩
  simp [Phrase.tokensOf]

theorem Holds.word {parser : Parser} {held : List Token} (holds : parser.Holds held)
    {token : Token} (welcome : parser.Welcomes token) (phrase : Phrase) (proper : phrase.Proper)
    (spelled : phrase.tokens = [token]) :
    (parser.deliver phrase.tree).Read (held ++ [token]) := by
  rw [← spelled]
  apply holds.deliver phrase proper
  intro first leads
  rw [spelled, List.head?_cons, Option.mem_def, Option.some.injEq] at leads
  exact leads ▸ welcome

theorem Holds.read_form {parser next : Parser} {held : List Token} (holds : parser.Holds held)
    {token : Token} (welcome : parser.Welcomes token) (read : parser.readForm token = .ok next) :
    next.Read (held ++ [token]) := by
  unfold readForm at read
  split at read
  next opens =>
    cases read
    refine ⟨⟨held, [token], ?_, .head opens, rfl⟩, fun forms => by cases forms⟩
    obtain ⟨phrases, pendingTokens, rest⟩ := holds
    exact ⟨phrases, pendingTokens, rest⟩
  next closes =>
    obtain ⟨stage, pending, finished⟩ := parser
    obtain ⟨phrases, pendingTokens, proper, trees, around, rfl⟩ := holds
    dsimp only at read around
    cases around with
    | none => cases read
    | @inside form outer header before gathered spelled around =>
        dsimp only at read
        cases closed : form.close with
        | error error =>
            rw [closed] at read
            cases read
        | ok tree =>
            rw [closed] at read
            cases read
            -- The closed form is one more phrase of the form around it.
            obtain ⟨phrase, phraseProper, rfl, tokens⟩ := spelled.close closes closed
            have outerHolds : Holds ⟨stage, outer, finished⟩ (Phrase.tokensOf phrases ++ before) :=
              ⟨phrases, before, proper, trees, around, rfl⟩
            have delivered := outerHolds.deliver phrase phraseProper (by
              intro first leads inner _ _ _
              rw [tokens] at leads
              simp only [List.cons_append, List.head?_cons, Option.mem_def,
                Option.some.injEq] at leads
              rintro ⟨special, keyword⟩
              rw [← leads, spelled.opening] at keyword
              cases keyword)
            rw [tokens] at delivered
            simpa using delivered
  next => cases read
  next => cases read
  next text spelled =>
    cases read
    obtain ⟨mark, rfl⟩ := Token.exists_mark spelled
    exact holds.word welcome (.reference ⟨mark, text⟩) trivial rfl
  next value spelled =>
    cases read
    obtain ⟨mark, rfl⟩ := Token.exists_mark spelled
    exact holds.word welcome (.number mark value) trivial rfl
  next text spelled =>
    cases read
    obtain ⟨mark, rfl⟩ := Token.exists_mark spelled
    exact holds.word welcome (.string mark text) trivial rfl
  next value spelled =>
    cases read
    obtain ⟨mark, rfl⟩ := Token.exists_mark spelled
    exact holds.word welcome (.boolean mark value) trivial rfl
  next spelled =>
    cases read
    obtain ⟨mark, rfl⟩ := Token.exists_mark spelled
    exact holds.word welcome (.nil mark) trivial rfl

theorem Holds.at_stage {parser : Parser} {held ahead : List Token} (holds : parser.Holds held)
    {stage : Stage} (spelled : stage.Spelled ahead) (within : stage ≠ .forms) :
    { parser with stage }.Read (held ++ ahead) :=
  ⟨⟨held, ahead, holds, spelled, rfl⟩, fun forms => absurd forms within⟩

theorem gather_welcomes {parser : Parser} {opening : Token} {shape : Shape}
    (special : shape ≠ .application) (token : Token) :
    (parser.gather opening shape).Welcomes token := by
  intro form member application
  simp only [Parser.gather, List.head?_cons, Option.mem_def, Option.some.injEq] at member
  subst member
  exact absurd application special

theorem Holds.at_gather {parser : Parser} {held : List Token} (holds : parser.Holds held)
    {opening : Token} (opens : opening.lexeme = .openParen) {shape : Shape} {header : List Token}
    (headed : shape.Header header) (special : shape ≠ .application) :
    (parser.gather opening shape).Read (held ++ (opening :: header)) :=
  ⟨⟨_, [], holds.gather opens headed, .forms, (List.append_nil _).symm⟩,
    fun _ => gather_welcomes special⟩

/-- What a parser has read grows by the token of each step. -/
theorem Read.step {parser next : Parser} {tokens : List Token} (read : parser.Read tokens)
    {token : Token} (stepped : parser.step token = .ok next) :
    next.Read (tokens ++ [token]) := by
  obtain ⟨⟨held, ahead, holds, spelled, rfl⟩, settled⟩ := read
  obtain ⟨stage, pending, finished⟩ := parser
  dsimp only at spelled settled
  cases spelled with
  | forms =>
      rw [List.append_nil]
      exact holds.read_form (settled rfl token) stepped
  | @head opening opens =>
      unfold Parser.step at stepped
      dsimp only at stepped
      split at stepped
      next form special =>
        cases stepped
        obtain ⟨mark, rfl⟩ := Token.exists_mark (special_form_some special)
        rw [List.append_assoc]
        cases form with
        | define => exact holds.at_stage (.naming opens mark) (by simp)
        | branch => exact holds.at_gather opens (.conditional mark) (by simp)
        | quote => exact holds.at_gather opens (.quotation mark) (by simp)
        | lambda => exact holds.at_stage (.listing opens mark) (by simp)
      next ordinary =>
        -- The token is read again, now as the first one of an application.
        apply (holds.gather opens .application).read_form _ stepped
        intro _ _ _ _
        exact not_keyword_of_special_form_none ordinary
  | @naming opening opens keyword =>
      unfold Parser.step at stepped
      dsimp only at stepped
      split at stepped
      next name spelled =>
        cases stepped
        obtain ⟨mark, rfl⟩ := Token.exists_mark spelled
        rw [List.append_assoc]
        exact holds.at_stage (.named opens keyword ⟨mark, name⟩) (by simp)
      next => cases stepped
  | @named opening opens keyword name =>
      unfold Parser.step at stepped
      dsimp only at stepped
      split at stepped
      next bracketed =>
        cases stepped
        obtain ⟨bracket, rfl⟩ := Token.exists_mark bracketed
        rw [List.append_assoc]
        exact holds.at_stage (.procedure opens keyword name bracket []) (by simp)
      next =>
        exact (holds.gather opens (.binding keyword name)).read_form
          (gather_welcomes (by simp) token) stepped
  | @listing opening opens keyword =>
      unfold Parser.step at stepped
      dsimp only at stepped
      split at stepped
      next bracketed =>
        cases stepped
        obtain ⟨bracket, rfl⟩ := Token.exists_mark bracketed
        rw [List.append_assoc]
        exact holds.at_stage (.lambda opens keyword bracket []) (by simp)
      next => cases stepped
  | @procedure opening opens keyword name bracket parameters =>
      unfold Parser.step at stepped
      dsimp only at stepped
      split at stepped
      next closes =>
        cases stepped
        obtain ⟨bracketEnd, rfl⟩ := Token.exists_mark closes
        rw [List.append_assoc, List.reverse_reverse]
        exact holds.at_gather opens (.procedure keyword name bracket parameters bracketEnd)
          (by simp)
      next parameter spelled =>
        cases stepped
        obtain ⟨mark, rfl⟩ := Token.exists_mark spelled
        have more := holds.at_stage
          (.procedure opens keyword name bracket (parameters ++ [⟨mark, parameter⟩])) (by simp)
        simpa [Label.token] using more
      next => cases stepped
  | @lambda opening opens keyword bracket parameters =>
      unfold Parser.step at stepped
      dsimp only at stepped
      split at stepped
      next closes =>
        cases stepped
        obtain ⟨bracketEnd, rfl⟩ := Token.exists_mark closes
        rw [List.append_assoc, List.reverse_reverse]
        exact holds.at_gather opens (.lambda keyword bracket parameters bracketEnd) (by simp)
      next parameter spelled =>
        cases stepped
        obtain ⟨mark, rfl⟩ := Token.exists_mark spelled
        have more := holds.at_stage
          (.lambda opens keyword bracket (parameters ++ [⟨mark, parameter⟩])) (by simp)
        simpa [Label.token] using more
      next => cases stepped

end Parser

def ParseError.culprit : ParseError → Token
  | .unexpected token => token
  | .emptyApplication opening => opening
  | .malformed _ _ token => token
  | .wrongCount _ opening _ _ => opening
  | .badParameter token => token
  | .unterminated opening => opening

theorem ParseError.culprit_position (error : ParseError) (source : String) :
    (error.diagnostic source).position = some (error.culprit.place.offset : Int) := by
  cases error <;> rfl

theorem OpenForm.close_culprit {form : OpenForm} {error : ParseError}
    (failed : form.close = .error error) : error.culprit = form.opening := by
  unfold OpenForm.close at failed
  dsimp only at failed
  split at failed <;> cases failed <;> rfl

theorem OpenForm.AllSpelled.opening_mem {pending : List OpenForm} {tokens : List Token}
    (spelled : AllSpelled pending tokens) {form : OpenForm} (innermost : form ∈ pending.head?) :
    form.opening ∈ tokens := by
  cases spelled with
  | none => simp at innermost
  | inside spelled around =>
      simp only [List.head?_cons, Option.mem_def, Option.some.injEq] at innermost
      simp [innermost]

namespace Parser

theorem Holds.opening_mem {parser : Parser} {held : List Token} (holds : parser.Holds held)
    {form : OpenForm} (innermost : form ∈ parser.pending.head?) : form.opening ∈ held := by
  obtain ⟨phrases, pendingTokens, -, -, around, rfl⟩ := holds
  exact List.mem_append_right _ (around.opening_mem innermost)

theorem Holds.read_form_culprit {parser : Parser} {held : List Token} (holds : parser.Holds held)
    {token : Token} {error : ParseError} (failed : parser.readForm token = .error error) :
    error.culprit ∈ held ++ [token] := by
  have last : token ∈ held ++ [token] := by simp
  unfold readForm at failed
  split at failed
  case h_2 =>
    split at failed
    next =>
      cases failed
      exact last
    next form outer pending =>
      cases closed : form.close with
      | ok tree =>
          rw [closed] at failed
          cases failed
      | error cause =>
          rw [closed] at failed
          cases failed
          rw [OpenForm.close_culprit closed]
          exact List.mem_append_left _ (holds.opening_mem (by simp [pending]))
  all_goals cases failed <;> exact last

theorem Read.step_culprit {parser : Parser} {tokens : List Token} (read : parser.Read tokens)
    {token : Token} {error : ParseError} (failed : parser.step token = .error error) :
    error.culprit ∈ tokens ++ [token] := by
  obtain ⟨⟨held, ahead, holds, spelled, rfl⟩, -⟩ := read
  obtain ⟨stage, pending, finished⟩ := parser
  dsimp only at spelled
  cases spelled with
  | forms =>
      rw [List.append_nil]
      exact holds.read_form_culprit failed
  | @head opening opens =>
      unfold Parser.step at failed
      dsimp only at failed
      split at failed
      next => cases failed
      next => exact (holds.gather opens .application).read_form_culprit failed
  | @named opening opens keyword name =>
      unfold Parser.step at failed
      dsimp only at failed
      split at failed
      next => cases failed
      next => exact (holds.gather opens (.binding keyword name)).read_form_culprit failed
  | _ =>
      unfold Parser.step at failed
      dsimp only at failed
      split at failed <;> cases failed
      simp [ParseError.culprit]

theorem Read.fold {parser : Parser} {before : List Token} (read : parser.Read before)
    (tokens : List Token) :
    match tokens.foldlM Parser.step parser with
    | .ok next => next.Read (before ++ tokens)
    | .error error => error.culprit ∈ before ++ tokens := by
  induction tokens generalizing parser before with
  | nil =>
      rw [List.append_nil]
      exact read
  | cons token tokens ih =>
      rw [List.foldlM_cons]
      cases stepped : parser.step token with
      | error error =>
          have culprit := read.step_culprit stepped
          simp only [bind, Except.bind]
          rw [← List.singleton_append, ← List.append_assoc]
          exact List.mem_append_left _ culprit
      | ok next =>
          have rest := ih (read.step stepped)
          rwa [List.append_assoc] at rest

/-- A parser that finishes has read a program. -/
theorem Read.finish {parser : Parser} {tokens : List Token} (read : parser.Read tokens)
    {trees : List Expr} (finished : parser.finish = .ok trees) :
    ∃ phrases, Derives tokens phrases trees := by
  obtain ⟨⟨held, ahead, holds, spelled, rfl⟩, -⟩ := read
  obtain ⟨stage, pending, done⟩ := parser
  obtain ⟨phrases, pendingTokens, proper, gathered, around, rfl⟩ := holds
  dsimp only at spelled around gathered
  cases spelled with
  | forms =>
      cases around with
      | none =>
          cases finished
          exact ⟨phrases, proper, by simp, gathered⟩
      | inside spelled around => cases finished
  | _ => cases finished

theorem Read.finish_culprit {parser : Parser} {tokens : List Token} (read : parser.Read tokens)
    {error : ParseError} (failed : parser.finish = .error error) : error.culprit ∈ tokens := by
  obtain ⟨⟨held, ahead, holds, spelled, rfl⟩, -⟩ := read
  obtain ⟨stage, pending, done⟩ := parser
  dsimp only at spelled
  cases spelled with
  | forms =>
      cases pending with
      | nil => cases failed
      | cons form outer =>
          cases failed
          exact List.mem_append_left _ (holds.opening_mem rfl)
  | _ =>
      cases failed
      simp [ParseError.culprit]

end Parser

theorem derives_of_read_tokens {tokens : List Token} {trees : List Expr}
    (parsed : readTokens tokens = .ok trees) : ∃ phrases, Derives tokens phrases trees := by
  have reads := Parser.read_start.fold tokens
  unfold readTokens at parsed
  cases folded : tokens.foldlM Parser.step {} with
  | error error =>
      rw [folded] at parsed
      cases parsed
  | ok parser =>
      rw [folded] at parsed reads
      exact reads.finish parsed

theorem read_tokens_culprit {tokens : List Token} {error : ParseError}
    (failed : readTokens tokens = .error error) : error.culprit ∈ tokens := by
  have reads := Parser.read_start.fold tokens
  unfold readTokens at failed
  cases folded : tokens.foldlM Parser.step {} with
  | error cause =>
      rw [folded] at failed reads
      cases failed
      exact reads
  | ok parser =>
      rw [folded] at failed reads
      exact reads.finish_culprit failed

end Lisplet
