import Lisplet.Proofs.NestedParsing

/-!
# Parsing by descent

The grammar can also be read by descent, with one function for each kind of form. Each takes
tokens off the front and leaves a shorter rest, and the levels of nesting that are left bound
the descent. A form that is asked for where no token is left has an outcome of its own. That
never happens, and otherwise the descent ends as the parser does: it reads what the parser
delivers, and the parser goes on with what it leaves.
-/

namespace Lisplet

namespace Descent

inductive Stop where
  | failed (failure : ParseFailure)
  | noToken

/-- What was read off the front of some tokens. -/
structure Taken (Result : Type) (tokens : List Token) where
  result : Result
  rest : List Token
  shorter : rest.length < tokens.length

abbrev Reader (Result : Type) := (tokens : List Token) → Except Stop (Taken Result tokens)

variable {Result Other : Type}

def refuse (error : ParseError) : Except Stop Result :=
  .error (.failed (.refused error))

/-- What was read behind a token was read off all of the tokens. -/
def behind {tokens : List Token} (first : Token) :
    Except Stop (Taken Result tokens) → Except Stop (Taken Result (first :: tokens))
  | .error stop => .error stop
  | .ok taken => .ok ⟨taken.result, taken.rest, Nat.lt_succ_of_lt taken.shorter⟩

def Taken.andThen {tokens : List Token} (taken : Taken Result tokens) :
    Except Stop (Taken Other taken.rest) → Except Stop (Taken Other tokens)
  | .error stop => .error stop
  | .ok more => .ok ⟨more.result, more.rest, Nat.lt_trans more.shorter taken.shorter⟩

/-- Parameters up to their closing bracket; the names so far are in reverse. -/
def parameters (opening : Token) (names : List String) : Reader (List String)
  | [] => refuse (.unterminated opening)
  | token :: rest =>
      match token.lexeme with
      | .closeBracket => .ok ⟨names.reverse, rest, Nat.lt_succ_self _⟩
      | .name name => behind token (parameters opening (name :: names) rest)
      | _ => refuse (.badParameter token)

/-- The forms up to the closing parenthesis, and what they make of the whole. -/
def complete (read : Reader Expr) (opening : Token) (shape : Shape) (gathered : List Expr) :
    Reader Expr
  | [] => refuse (.unterminated opening)
  | token :: rest =>
      if token.lexeme = .closeParen then
        match OpenForm.close ⟨opening, shape, gathered⟩ with
        | .error error => refuse error
        | .ok tree => .ok ⟨tree, rest, Nat.lt_succ_self _⟩
      else
        match read (token :: rest) with
        | .error stop => .error stop
        | .ok taken =>
            taken.andThen (complete read opening shape (taken.result :: gathered) taken.rest)
termination_by tokens => tokens.length
decreasing_by exact taken.shorter

def procedure (read : Reader Expr) (opening : Token) (name : Option String) : Reader Expr :=
  fun tokens =>
    match parameters opening [] tokens with
    | .error stop => .error stop
    | .ok taken =>
        taken.andThen (complete read opening (.procedure name taken.result) [] taken.rest)

def definition (read : Reader Expr) (opening : Token) (name : String) : Reader Expr
  | [] => refuse (.unterminated opening)
  | token :: rest =>
      if token.lexeme = .openBracket then
        behind token (procedure read opening (some name) rest)
      else complete read opening (.binding name) [] (token :: rest)

def special (read : Reader Expr) (opening : Token) : SpecialForm → Reader Expr
  | .branch, tokens => complete read opening .conditional [] tokens
  | .quote, tokens => complete read opening .quotation [] tokens
  | .define, [] => refuse (.unterminated opening)
  | .define, token :: rest =>
      match token.lexeme with
      | .name name => behind token (definition read opening name rest)
      | _ => refuse (.malformed .define opening token)
  | .lambda, [] => refuse (.unterminated opening)
  | .lambda, token :: rest =>
      if token.lexeme = .openBracket then behind token (procedure read opening none rest)
      else refuse (.malformed .lambda opening token)

def list (read : Reader Expr) (opening : Token) : Reader Expr
  | [] => refuse (.unterminated opening)
  | token :: rest =>
      match Parser.specialForm? token with
      | some form => behind token (special read opening form rest)
      | none => complete read opening .application [] (token :: rest)

/-- One form, where lists are read as given. -/
def form (inside : (opening : Token) → Reader Expr) : Reader Expr
  | [] => .error .noToken
  | token :: rest =>
      let word := fun (tree : Expr) => Except.ok ⟨tree, rest, Nat.lt_succ_self _⟩
      match token.lexeme with
      | .openParen => behind token (inside token rest)
      | .name name => word (.reference token.location name)
      | .number value => word (.literal token.location (.atom (.number value)))
      | .string text => word (.literal token.location (.atom (.string text)))
      | .boolean value => word (.literal token.location (.atom (.boolean value)))
      | .nil => word (.literal token.location (.atom .nil))
      | _ => refuse (.unexpected token)

def expression : (room : Nat) → Reader Expr
  | 0 => form fun _ _ => .error (.failed .tooDeep)
  | room + 1 => form (list (expression room))

/-- All top-level forms; those finished before are in reverse. -/
def program (read : Reader Expr) (finished : List Expr) :
    (tokens : List Token) → Except Stop (List Expr)
  | [] => .ok finished.reverse
  | token :: rest =>
      match read (token :: rest) with
      | .error stop => .error stop
      | .ok taken => program read (taken.result :: finished) taken.rest
termination_by tokens => tokens.length
decreasing_by exact taken.shorter

def parse (limit : Nat) (tokens : List Token) : Except Stop (List Expr) :=
  program (expression limit) [] tokens

end Descent

/-- What a parser makes of the tokens before it. -/
def Parser.conclude (limit : Nat) (parser : Parser) (tokens : List Token) :
    Except ParseFailure (List Expr) := do
  let last ← tokens.foldlM (Parser.stepWithin limit) parser
  last.finish.mapError .refused

namespace Descent

/-- The descent reads off the tokens what takes the parser to where it resumes, or fails as
the parser does. -/
inductive Agrees {Result : Type} (limit : Nat) (parser : Parser) (resume : Result → Parser)
    {tokens : List Token} : Except Stop (Taken Result tokens) → Prop where
  | reads {taken : Taken Result tokens}
      (goes : parser.conclude limit tokens = (resume taken.result).conclude limit taken.rest) :
      Agrees limit parser resume (.ok taken)
  | fails {failure : ParseFailure} (ends : parser.conclude limit tokens = .error failure) :
      Agrees limit parser resume (.error (.failed failure))

end Descent

namespace Parser

variable {limit : Nat} {parser next : Parser} {token : Token} {rest : List Token}

theorem conclude_step (stepped : parser.step token = .ok next) (fits : next.openForms ≤ limit)
    (rest : List Token) : parser.conclude limit (token :: rest) = next.conclude limit rest := by
  unfold conclude
  rw [List.foldlM_cons]
  simp only [stepWithin, stepped, if_pos fits]
  rfl

theorem conclude_deep (stepped : parser.step token = .ok next)
    (exceeds : ¬next.openForms ≤ limit) :
    parser.conclude limit (token :: rest) = .error .tooDeep := by
  unfold conclude
  rw [List.foldlM_cons]
  simp only [stepWithin, stepped, if_neg exceeds]
  rfl

theorem conclude_refused {error : ParseError} (failed : parser.step token = .error error) :
    parser.conclude limit (token :: rest) = .error (.refused error) := by
  unfold conclude
  rw [List.foldlM_cons]
  simp only [stepWithin, failed]
  rfl

theorem conclude_unterminated {opening : Token} (inside : parser.innermost? = some opening) :
    parser.conclude limit [] = .error (.refused (.unterminated opening)) := by
  change parser.finish.mapError ParseFailure.refused = _
  rw [finish, inside]
  rfl

theorem conclude_congr {other : Parser} (same : parser.step token = other.step token) :
    parser.conclude limit (token :: rest) = other.conclude limit (token :: rest) := by
  unfold conclude
  rw [List.foldlM_cons, List.foldlM_cons]
  simp only [stepWithin, same]

end Parser

namespace Descent

section Agreement

variable {Result Other : Type} {limit : Nat} {parser middle : Parser} {resume : Result → Parser}
  {tokens : List Token}

theorem Agrees.of_eq {outcome : Except Stop (Taken Result tokens)}
    (agrees : Agrees limit middle resume outcome)
    (same : parser.conclude limit tokens = middle.conclude limit tokens) :
    Agrees limit parser resume outcome := by
  cases agrees with
  | reads goes => exact .reads (same.trans goes)
  | fails ends => exact .fails (same.trans ends)

theorem Agrees.behind {outcome : Except Stop (Taken Result tokens)} {first : Token}
    (agrees : Agrees limit middle resume outcome)
    (goes : parser.conclude limit (first :: tokens) = middle.conclude limit tokens) :
    Agrees limit parser resume (behind first outcome) := by
  cases agrees with
  | reads further => exact .reads (goes.trans further)
  | fails ends => exact .fails (goes.trans ends)

theorem Agrees.andThen {taken : Taken Other tokens}
    {outcome : Except Stop (Taken Result taken.rest)} (agrees : Agrees limit middle resume outcome)
    (goes : parser.conclude limit tokens = middle.conclude limit taken.rest) :
    Agrees limit parser resume (taken.andThen outcome) := by
  cases agrees with
  | reads further => exact .reads (goes.trans further)
  | fails ends => exact .fails (goes.trans ends)

end Agreement

/-- A reader of forms agrees with every parser that has a number of forms open, except that
the parser takes a closing parenthesis for the end of a form. -/
def Reads (limit depth : Nat) (read : Reader Expr) : Prop :=
  ∀ (parser : Parser) (first : Token) (rest : List Token), parser.stage = .forms →
    parser.pending.length = depth → (first.lexeme = .closeParen → parser.pending = []) →
      Agrees limit parser parser.deliver (read (first :: rest))

section Forms

variable {limit : Nat} {parser : Parser} {read : Reader Expr} {opening : Token}

theorem parameters_agree (fits : parser.pending.length + 1 ≤ limit) (opening : Token)
    (name : Option String) (names : List String) (tokens : List Token) :
    Agrees limit { parser with stage := .parameters opening name names }
      (fun found => parser.inside opening (.procedure name found) [])
      (parameters opening names tokens) := by
  induction tokens generalizing names with
  | nil => exact .fails (Parser.conclude_unterminated rfl)
  | cons token rest ih =>
      unfold parameters
      split
      next closes =>
        have stepped : Parser.step { parser with stage := .parameters opening name names } token =
            .ok (parser.inside opening (.procedure name names.reverse) []) := by
          simp only [Parser.step, closes]
          rfl
        exact .reads (Parser.conclude_step stepped fits rest)
      next parameter spelled =>
        have stepped : Parser.step { parser with stage := .parameters opening name names } token =
            .ok { parser with stage := .parameters opening name (parameter :: names) } := by
          simp only [Parser.step, spelled]
          rfl
        exact (ih (parameter :: names)).behind (Parser.conclude_step stepped fits rest)
      next closesNot namesNot =>
        refine .fails (Parser.conclude_refused ?_)
        simp only [Parser.step]
        rfl

theorem complete_agrees (fits : parser.pending.length + 1 ≤ limit)
    (reads : Reads limit (parser.pending.length + 1) read) (shape : Shape)
    (gathered : List Expr) (tokens : List Token) :
    Agrees limit (parser.inside opening shape gathered) parser.deliver
      (complete read opening shape gathered tokens) := by
  have here (gathered : List Expr) (token : Token) (rest : List Token)
      (closesNot : token.lexeme ≠ .closeParen) :=
    reads (parser.inside opening shape gathered) token rest rfl rfl
      fun closes => absurd closes closesNot
  fun_induction complete read opening shape gathered tokens with
  | case1 gathered => exact .fails (Parser.conclude_unterminated rfl)
  | case2 gathered token rest closes error failed =>
      refine .fails (Parser.conclude_refused ?_)
      rw [Parser.step_forms rfl, Parser.readForm]
      simp only [closes, Parser.inside, failed]
      rfl
  | case3 gathered token rest closes tree closed =>
      obtain ⟨closing, rfl⟩ := Token.exists_mark closes
      have stepped := Parser.step_close parser opening shape gathered closing closed
      refine .reads (Parser.conclude_step stepped ?_ rest)
      rw [Parser.deliver_open_forms]
      exact Nat.le_of_succ_le fits
  | case4 gathered token rest closesNot stop stopped =>
      have agrees := here gathered token rest closesNot
      rw [stopped] at agrees
      cases agrees with
      | fails ends => exact .fails ends
  | case5 gathered token rest closesNot taken found ih =>
      have agrees := here gathered token rest closesNot
      rw [found] at agrees
      cases agrees with
      | reads goes => exact ih.andThen goes

theorem procedure_agrees (fits : parser.pending.length + 1 ≤ limit)
    (reads : Reads limit (parser.pending.length + 1) read) (name : Option String)
    (tokens : List Token) :
    Agrees limit { parser with stage := .parameters opening name [] } parser.deliver
      (procedure read opening name tokens) := by
  have listed := parameters_agree fits opening name [] tokens
  unfold procedure
  cases taken : parameters opening [] tokens with
  | error stop =>
      rw [taken] at listed
      cases listed with
      | fails ends => exact .fails ends
  | ok found =>
      rw [taken] at listed
      cases listed with
      | reads goes => exact (complete_agrees fits reads _ [] found.rest).andThen goes

theorem definition_agrees (fits : parser.pending.length + 1 ≤ limit)
    (reads : Reads limit (parser.pending.length + 1) read) (name : String)
    (tokens : List Token) :
    Agrees limit { parser with stage := .named opening name } parser.deliver
      (definition read opening name tokens) := by
  cases tokens with
  | nil => exact .fails (Parser.conclude_unterminated rfl)
  | cons token rest =>
      simp only [definition]
      split
      next bracketed =>
        have stepped : Parser.step { parser with stage := .named opening name } token =
            .ok { parser with stage := .parameters opening (some name) [] } := by
          simp only [Parser.step, bracketed]
          rfl
        exact (procedure_agrees fits reads (some name) rest).behind
          (Parser.conclude_step stepped fits rest)
      next unbracketed =>
        refine (complete_agrees fits reads (.binding name) [] _).of_eq (Parser.conclude_congr ?_)
        simp only [Parser.step]
        rfl

theorem special_agrees (fits : parser.pending.length + 1 ≤ limit)
    (reads : Reads limit (parser.pending.length + 1) read) (form : SpecialForm)
    (tokens : List Token) :
    Agrees limit ({ parser with stage := .head opening }.enterSpecial opening form) parser.deliver
      (special read opening form tokens) := by
  cases form with
  | branch =>
      simp only [special]
      exact complete_agrees fits reads .conditional [] tokens
  | quote =>
      simp only [special]
      exact complete_agrees fits reads .quotation [] tokens
  | define =>
      cases tokens with
      | nil => exact .fails (Parser.conclude_unterminated rfl)
      | cons token rest =>
          simp only [special]
          split
          next name spelled =>
            have stepped : Parser.step { parser with stage := .naming opening } token =
                .ok { parser with stage := .named opening name } := by
              simp only [Parser.step, spelled]
              rfl
            exact (definition_agrees fits reads name rest).behind
              (Parser.conclude_step stepped fits rest)
          next unnamed =>
            refine .fails (Parser.conclude_refused ?_)
            simp only [Parser.step, Parser.enterSpecial]
            rfl
  | lambda =>
      cases tokens with
      | nil => exact .fails (Parser.conclude_unterminated rfl)
      | cons token rest =>
          simp only [special]
          split
          next bracketed =>
            have stepped : Parser.step { parser with stage := .listing opening } token =
                .ok { parser with stage := .parameters opening none [] } := by
              simp only [Parser.step, bracketed]
              rfl
            exact (procedure_agrees fits reads none rest).behind
              (Parser.conclude_step stepped fits rest)
          next unbracketed =>
            refine .fails (Parser.conclude_refused ?_)
            simp only [Parser.step, Parser.enterSpecial]
            rfl

theorem list_agrees (fits : parser.pending.length + 1 ≤ limit)
    (reads : Reads limit (parser.pending.length + 1) read) (tokens : List Token) :
    Agrees limit { parser with stage := .head opening } parser.deliver
      (list read opening tokens) := by
  cases tokens with
  | nil => exact .fails (Parser.conclude_unterminated rfl)
  | cons token rest =>
      simp only [list]
      split
      next form special =>
        have stepped : Parser.step { parser with stage := .head opening } token =
            .ok ({ parser with stage := .head opening }.enterSpecial opening form) := by
          simp only [Parser.step, special]
          rfl
        refine (special_agrees fits reads form rest).behind (Parser.conclude_step stepped ?_ rest)
        cases form <;> exact fits
      next ordinary =>
        refine (complete_agrees fits reads .application [] _).of_eq (Parser.conclude_congr ?_)
        simp only [Parser.step, ordinary]
        rfl

theorem form_agrees {inside : (opening : Token) → Reader Expr} {first : Token}
    {rest : List Token} (ready : parser.stage = .forms) (fits : parser.pending.length ≤ limit)
    (outermost : first.lexeme = .closeParen → parser.pending = [])
    (lists : first.lexeme = .openParen →
      Agrees limit parser parser.deliver (behind first (inside first rest))) :
    Agrees limit parser parser.deliver (form inside (first :: rest)) := by
  have word {tree : Expr} (read : parser.readForm first = .ok (parser.deliver tree)) :
      Agrees limit parser parser.deliver
        (.ok (⟨tree, rest, Nat.lt_succ_self _⟩ : Taken Expr (first :: rest))) := by
    refine .reads (Parser.conclude_step ((Parser.step_forms ready first).trans read) ?_ rest)
    rw [Parser.deliver_open_forms]
    exact fits
  have misplaced (read : parser.readForm first = .error (.unexpected first)) :
      Agrees limit parser parser.deliver
        (refuse (.unexpected first) : Except Stop (Taken Expr (first :: rest))) :=
    .fails (Parser.conclude_refused ((Parser.step_forms ready first).trans read))
  unfold form
  dsimp only
  cases spelled : first.lexeme with
  | openParen => exact lists spelled
  | closeParen =>
      refine misplaced ?_
      simp only [Parser.readForm, spelled, outermost spelled]
      rfl
  | openBracket | closeBracket =>
      refine misplaced ?_
      simp only [Parser.readForm, spelled]
      rfl
  | name | number | string | boolean | nil =>
      refine word ?_
      simp only [Parser.readForm, spelled]
      rfl

end Forms

/-- The levels that are left are those that the parser has not opened. -/
theorem expression_reads {limit room depth : Nat} (left : depth + room = limit) :
    Reads limit depth (expression room) := by
  induction room generalizing depth with
  | zero =>
      intro parser first rest ready deep outermost
      refine form_agrees ready (by omega) outermost fun opens => ?_
      have stepped : parser.step first = .ok { parser with stage := .head first } := by
        rw [Parser.step_forms ready, Parser.readForm]
        simp only [opens]
        rfl
      have exceeds : ¬Parser.openForms { parser with stage := .head first } ≤ limit := by
        change ¬parser.pending.length + 1 ≤ limit
        omega
      exact .fails (Parser.conclude_deep stepped exceeds)
  | succ room ih =>
      intro parser first rest ready deep outermost
      refine form_agrees ready (by omega) outermost fun opens => ?_
      have stepped : parser.step first = .ok { parser with stage := .head first } := by
        rw [Parser.step_forms ready, Parser.readForm]
        simp only [opens]
        rfl
      have fits : parser.pending.length + 1 ≤ limit := by omega
      have below : Reads limit (parser.pending.length + 1) (expression room) := ih (by omega)
      exact (list_agrees fits below rest).behind (Parser.conclude_step stepped fits rest)

theorem program_eq (limit : Nat) (finished : List Expr) (tokens : List Token) :
    program (expression limit) finished tokens =
      (Parser.conclude limit ⟨.forms, [], finished⟩ tokens).mapError .failed := by
  fun_induction program (expression limit) finished tokens with
  | case1 finished => rfl
  | case2 finished token rest stop stopped =>
      have agrees := expression_reads (Nat.zero_add limit) ⟨.forms, [], finished⟩ token rest rfl
        rfl fun _ => rfl
      rw [stopped] at agrees
      cases agrees with
      | fails ends =>
          rw [ends]
          rfl
  | case3 finished token rest taken found ih =>
      have agrees := expression_reads (Nat.zero_add limit) ⟨.forms, [], finished⟩ token rest rfl
        rfl fun _ => rfl
      rw [found] at agrees
      cases agrees with
      | reads goes =>
          rw [ih, goes]
          rfl

/-- The descent never asks for a form where no token is left, and ends as the parser does. -/
theorem parse_eq (limit : Nat) (tokens : List Token) :
    parse limit tokens = (parseTokens limit tokens).mapError .failed :=
  program_eq limit [] tokens

end Descent

/-- Within a limit on nesting, exactly the token lists that the grammar derives are parsed, each
to the trees of its only derivation. The nodes of the trees are those of the parts of the
derivation, and each node has the location of the first token of its part. Derived trees that
nest deeper are too deep. Tokens without a derivation are refused at one of them, unless they
open more forms at once than the limit allows before that. A parser by recursive descent finds
the same, and is never left without a token where it needs one. -/
theorem parse_tokens_accepts_exactly_the_grammar (limit : Nat) (tokens : List Token)
    (source : String) :
    (∀ trees, parseTokens limit tokens = .ok trees ↔
      ∃ phrases, Derives tokens phrases trees ∧ ∀ tree ∈ trees, tree.nesting ≤ limit) ∧
    (∀ phrases trees others otherTrees, Derives tokens phrases trees →
      Derives tokens others otherTrees → phrases = others ∧ trees = otherTrees) ∧
    (∀ phrases trees, Derives tokens phrases trees →
      Expr.nodesOf trees = (Phrase.partsOf phrases).map Phrase.tree ∧
      ∀ part ∈ Phrase.partsOf phrases, ∃ first,
        part.tokens.head? = some first ∧ part.tree.location = first.location) ∧
    (∀ phrases trees, Derives tokens phrases trees → (∃ tree ∈ trees, limit < tree.nesting) →
      parseTokens limit tokens = .error .tooDeep) ∧
    ((∀ phrases trees, ¬Derives tokens phrases trees) →
      ∃ error, (∃ token ∈ tokens,
          (error.diagnostic source).position = some (token.place.offset : Int)) ∧
        (parseTokens limit tokens = .error (.refused error) ∨
          parseTokens limit tokens = .error .tooDeep ∧ limit < peak 0 tokens)) ∧
    Descent.parse limit tokens = (parseTokens limit tokens).mapError .failed := by
  refine ⟨fun trees => ⟨fun parsed => ?_, fun derived => ?_⟩,
    fun phrases trees others otherTrees derives otherDerives => ?_,
    fun phrases trees derives => ⟨?_, fun part _ => ?_⟩, fun phrases trees derives deep => ?_,
    fun underived => ?_, Descent.parse_eq limit tokens⟩
  · obtain ⟨phrases, derives⟩ := derives_of_parse_tokens parsed
    exact ⟨phrases, derives, Expr.nesting_of_le.mp (nesting_of_parse_tokens parsed)⟩
  · obtain ⟨phrases, derives, fits⟩ := derived
    rw [parse_tokens_of_derives derives, if_pos (Expr.nesting_of_le.mpr fits)]
  · have same := derives.unique otherDerives
    exact ⟨same, by rw [← derives.trees, ← otherDerives.trees, same]⟩
  · rw [← derives.trees, Phrase.nodes_trees_of]
  · obtain ⟨first, rest, opened, -, located⟩ := part.tokens_open
    exact ⟨first, by rw [opened, List.head?_cons], located⟩
  · rw [parse_tokens_of_derives derives, if_neg (Expr.not_nesting_of_le.mpr deep)]
  · cases read : readTokens tokens with
    | ok trees =>
        obtain ⟨phrases, derives⟩ := derives_of_read_tokens read
        exact absurd derives (underived phrases trees)
    | error error =>
        exact ⟨error, ⟨error.culprit, read_tokens_culprit read, error.culprit_position source⟩,
          parse_tokens_of_unread read⟩

section Openings

variable {tokens : List Token} (opens : ∀ token ∈ tokens, token.lexeme = .openParen)
include opens

theorem peak_openings (level : Nat) : peak level tokens = level + tokens.length := by
  induction tokens generalizing level with
  | nil => rfl
  | cons token rest ih =>
      obtain ⟨first, others⟩ := List.forall_mem_cons.mp opens
      have rises : token.levelBehind level = level + 1 := by
        unfold Token.levelBehind
        rw [first]
      rw [peak, rises, ih others, List.length_cons]
      omega

theorem Parser.fold_openings {parser : Parser} {opening : Token}
    (ready : parser.stage = .head opening) :
    ∃ last innermost, tokens.foldlM Parser.step parser = .ok last ∧
      last.stage = .head innermost := by
  induction tokens generalizing parser opening with
  | nil => exact ⟨parser, opening, rfl, ready⟩
  | cons token rest ih =>
      obtain ⟨first, others⟩ := List.forall_mem_cons.mp opens
      have stepped : parser.step token =
          .ok { parser.gather opening .application with stage := .head token } := by
        simp only [Parser.step, ready, Parser.specialForm?, first, Parser.readForm]
        rfl
      rw [List.foldlM_cons, stepped]
      exact ih others rfl

theorem Parser.fold_openings_start (given : tokens ≠ []) :
    ∃ last innermost, tokens.foldlM Parser.step {} = .ok last ∧ last.stage = .head innermost := by
  cases tokens with
  | nil => exact absurd rfl given
  | cons token rest =>
      obtain ⟨first, others⟩ := List.forall_mem_cons.mp opens
      have stepped : Parser.step {} token = .ok { stage := .head token } := by
        simp only [Parser.step, Parser.readForm, first]
        rfl
      rw [List.foldlM_cons, stepped]
      exact Parser.fold_openings others rfl

theorem read_openings (given : tokens ≠ []) :
    ∃ opening, readTokens tokens = .error (.unterminated opening) := by
  obtain ⟨last, innermost, folded, waits⟩ := Parser.fold_openings_start opens given
  refine ⟨innermost, ?_⟩
  rw [readTokens, folded, Parser.ok_bind]
  simp only [Parser.finish, Parser.innermost?, waits]

theorem parse_openings {limit : Nat} (deep : limit < tokens.length) :
    parseTokens limit tokens = .error .tooDeep := by
  obtain ⟨last, -, folded, -⟩ :=
    Parser.fold_openings_start opens (List.ne_nil_of_length_pos (by omega))
  have rises : ¬peak 0 tokens ≤ limit := by
    rw [peak_openings opens]
    omega
  rw [parseTokens, Parser.fold_start_within folded, if_neg rises]
  rfl

end Openings

def openings (count : Nat) : List Token :=
  (List.range count).map fun offset => ⟨.openParen, ⟨offset, 1, offset + 1⟩, 1⟩

/-- Sixty thousand opening parentheses have no derivation, but the parser does not say
that a form is left open. -/
theorem deep_openings_not_refused :
    (∀ phrases trees, ¬Derives (openings 60000) phrases trees) ∧
      (∃ opening, readTokens (openings 60000) = .error (.unterminated opening)) ∧
      parseTokens nestingLimit (openings 60000) = .error .tooDeep := by
  have opens : ∀ token ∈ openings 60000, token.lexeme = .openParen := by
    intro token member
    obtain ⟨offset, -, rfl⟩ := List.mem_map.mp member
    rfl
  have long : (openings 60000).length = 60000 := by
    rw [openings, List.length_map, List.length_range]
  have deep : nestingLimit < (openings 60000).length := by
    rw [long]
    decide
  obtain ⟨opening, refused⟩ :=
    read_openings opens (List.ne_nil_of_length_pos (Nat.zero_lt_of_lt deep))
  refine ⟨fun phrases trees derives => ?_, ⟨opening, refused⟩, parse_openings opens deep⟩
  rw [read_tokens_of_derives derives] at refused
  cases refused

end Lisplet
