import Lisplet.Proofs.Grammar

/-!
# The parser reads what the grammar derives

The parser reads tokens one at a time. Whatever forms are open around a phrase, behind
the tokens of the phrase the parser has delivered the tree of that phrase, and is
otherwise as it was.
-/

namespace Lisplet

namespace Parser

theorem ok_bind {Error Value Result : Type} (value : Value)
    (next : Value → Except Error Result) :
    (Except.ok value >>= next) = next value := rfl

theorem special_form_none {token : Token} (ordinary : ¬token.IsKeyword) :
    specialForm? token = none := by
  unfold specialForm?
  split
  next text spelled =>
    have apart (form : SpecialForm) : text ≠ form.keyword := by
      intro same
      exact ordinary ⟨form, by rw [spelled, same]⟩
    have noDefine : text ≠ "define" := apart .define
    have noBranch : text ≠ "if" := apart .branch
    have noQuote : text ≠ "quote" := apart .quote
    have noLambda : text ≠ "lambda" := apart .lambda
    simp [SpecialForm.ofKeyword?, noDefine, noBranch, noQuote, noLambda]
  next => rfl

theorem special_form_some {token : Token} {form : SpecialForm}
    (special : specialForm? token = some form) : token.lexeme = .name form.keyword := by
  unfold specialForm? at special
  split at special
  next text spelled =>
    unfold SpecialForm.ofKeyword? at special
    rw [spelled]
    split_ifs at special with define branch quote lambda <;> cases special <;>
      simp_all [SpecialForm.keyword]
  next => cases special

theorem not_keyword_of_special_form_none {token : Token}
    (ordinary : specialForm? token = none) : ¬token.IsKeyword := by
  rintro ⟨form, spelled⟩
  unfold specialForm? at ordinary
  rw [spelled] at ordinary
  cases form <;> simp [SpecialForm.ofKeyword?, SpecialForm.keyword] at ordinary

def deliverAll (parser : Parser) (trees : List Expr) : Parser :=
  trees.foldl deliver parser

def inside (parser : Parser) (opening : Token) (shape : Shape) (gathered : List Expr) : Parser :=
  { parser with stage := .forms, pending := ⟨opening, shape, gathered⟩ :: parser.pending }

theorem inside_deliver_all (parser : Parser) (opening : Token) (shape : Shape)
    (gathered trees : List Expr) :
    (parser.inside opening shape gathered).deliverAll trees =
      parser.inside opening shape (trees.reverse ++ gathered) := by
  induction trees generalizing gathered with
  | nil => rfl
  | cons tree trees ih =>
      have delivered : (parser.inside opening shape gathered).deliver tree =
          parser.inside opening shape (tree :: gathered) := rfl
      change ((parser.inside opening shape gathered).deliver tree).deliverAll trees = _
      rw [delivered, ih, List.reverse_cons, List.append_assoc]
      rfl

theorem deliver_stage (parser : Parser) (tree : Expr) : (parser.deliver tree).stage = .forms := by
  unfold deliver
  split <;> rfl

theorem step_forms {parser : Parser} (ready : parser.stage = .forms) (token : Token) :
    parser.step token = parser.readForm token := by
  simp only [step, ready]

theorem fold_keyword {parser : Parser} (ready : parser.stage = .forms) (opening keyword : Mark)
    (form : SpecialForm) (rest : List Token) :
    (opening.token .openParen :: keyword.token (.name form.keyword) :: rest).foldlM step parser =
      rest.foldlM step
        ({ parser with stage := .head (opening.token .openParen) }.enterSpecial
          (opening.token .openParen) form) := by
  have opened : parser.step (opening.token .openParen) =
      .ok { parser with stage := .head (opening.token .openParen) } := by
    rw [step_forms ready]
    rfl
  have special : specialForm? (keyword.token (.name form.keyword)) = some form := by
    cases form <;> simp [specialForm?, Mark.token, SpecialForm.ofKeyword?, SpecialForm.keyword]
  rw [List.foldlM_cons, opened, ok_bind, List.foldlM_cons]
  simp only [step, special]
  rfl

theorem fold_head (parser : Parser) (opening first : Token) (rest : List Token)
    (ordinary : ¬first.IsKeyword) :
    (first :: rest).foldlM step { parser with stage := .head opening } =
      (first :: rest).foldlM step (parser.inside opening .application []) := by
  simp only [List.foldlM_cons, step, special_form_none ordinary]
  rfl

theorem fold_named (parser : Parser) (opening first : Token) (name : String) (rest : List Token)
    (unbracketed : first.lexeme ≠ .openBracket) :
    (first :: rest).foldlM step { parser with stage := .named opening name } =
      (first :: rest).foldlM step (parser.inside opening (.binding name) []) := by
  have begins : step { parser with stage := .named opening name } first =
      step (parser.inside opening (.binding name) []) first := by
    unfold step
    dsimp only
    split
    next bracket => exact absurd bracket unbracketed
    next => rfl
  simp only [List.foldlM_cons, begins]

theorem step_close (parser : Parser) (opening : Token) (shape : Shape) (gathered : List Expr)
    (closing : Mark) {tree : Expr}
    (closes : OpenForm.close ⟨opening, shape, gathered⟩ = .ok tree) :
    (parser.inside opening shape gathered).step (closing.token .closeParen) =
      .ok (parser.deliver tree) := by
  have read : (parser.inside opening shape gathered).step (closing.token .closeParen) =
      (OpenForm.close ⟨opening, shape, gathered⟩ >>= fun expression =>
        .ok ({ parser with stage := .forms }.deliver expression)) := rfl
  rw [read, closes, ok_bind]
  unfold deliver
  dsimp only

theorem fold_close (parser : Parser) (opening : Token) (shape : Shape) (closing : Mark)
    (trees : List Expr) {tokens : List Token} {tree : Expr}
    (read : tokens.foldlM step (parser.inside opening shape []) =
      .ok ((parser.inside opening shape []).deliverAll trees))
    (closes : OpenForm.close ⟨opening, shape, trees.reverse⟩ = .ok tree) :
    (tokens ++ [closing.token .closeParen]).foldlM step (parser.inside opening shape []) =
      .ok (parser.deliver tree) := by
  rw [List.foldlM_append, read, ok_bind, inside_deliver_all, List.append_nil,
    List.foldlM_cons, step_close parser opening shape trees.reverse closing closes]
  rfl

theorem fold_parameters (parser : Parser) (opening : Token) (name : Option String)
    (names : List String) (parameters : List Label) (bracketEnd : Mark) :
    (parameters.map Label.token ++ [bracketEnd.token .closeBracket]).foldlM step
        { parser with stage := .parameters opening name names } =
      .ok (parser.inside opening
        (.procedure name (names.reverse ++ parameters.map Label.text)) []) := by
  induction parameters generalizing names with
  | nil =>
      rw [List.map_nil, List.map_nil, List.append_nil]
      rfl
  | cons label parameters ih =>
      have taken : step { parser with stage := .parameters opening name names } label.token =
          .ok { parser with stage := .parameters opening name (label.text :: names) } := rfl
      simp only [List.map_cons, List.cons_append, List.foldlM_cons, taken, ok_bind]
      rw [ih, List.reverse_cons, List.append_assoc]
      rfl

theorem fold_listed (parser : Parser) (opening : Token) (name : Option String) (bracket : Mark)
    (parameters : List Label) (bracketEnd : Mark) (rest : List Token)
    {stage : Stage}
    (begins : step { parser with stage } (bracket.token .openBracket) =
      .ok { parser with stage := .parameters opening name [] }) :
    (Phrase.listed bracket parameters bracketEnd ++ rest).foldlM step { parser with stage } =
      rest.foldlM step
        (parser.inside opening (.procedure name (parameters.map Label.text)) []) := by
  rw [Phrase.listed, List.foldlM_append, List.cons_append, List.foldlM_cons, begins, ok_bind,
    fold_parameters, ok_bind]
  rfl

mutual

/-- Behind the tokens of a phrase its tree has been delivered. -/
theorem fold_tokens (phrase : Phrase) (proper : phrase.Proper) (parser : Parser)
    (ready : parser.stage = .forms) :
    phrase.tokens.foldlM step parser = .ok (parser.deliver phrase.tree) := by
  cases phrase with
  | define opening keyword name value closing =>
      -- The first token of the value shows that this defines no procedure.
      obtain ⟨first, more, spelled, opens, -⟩ := value.tokens_open
      have unbracketed : first.lexeme ≠ .openBracket := by
        intro same
        exact opens (by simp [Phrase.closers, same])
      have named : step { parser with stage := .naming (opening.token .openParen) } name.token =
          .ok { parser with stage := .named (opening.token .openParen) name.text } := rfl
      have entered := fold_keyword ready opening keyword .define
        (name.token :: (value.tokens ++ [closing.token .closeParen]))
      rw [Phrase.tokens, show "define" = SpecialForm.define.keyword from rfl, entered]
      simp only [enterSpecial, List.foldlM_cons, named, ok_bind]
      rw [spelled, List.cons_append, fold_named _ _ _ _ _ unbracketed, ← List.cons_append,
        ← spelled]
      exact fold_close parser _ _ closing [value.tree] (fold_tokens value proper _ rfl)
        rfl
  | procedure opening keyword name bracket parameters bracketEnd body closing =>
      have named : step { parser with stage := .naming (opening.token .openParen) } name.token =
          .ok { parser with stage := .named (opening.token .openParen) name.text } := rfl
      have entered := fold_keyword ready opening keyword .define
        (name.token :: (Phrase.listed bracket parameters bracketEnd ++
          (Phrase.tokensOf body ++ [closing.token .closeParen])))
      rw [Phrase.tokens, show "define" = SpecialForm.define.keyword from rfl, entered]
      simp only [enterSpecial, List.foldlM_cons, named, ok_bind]
      rw [fold_listed parser (opening.token .openParen) (some name.text) _ _ _ _ rfl]
      apply fold_close parser _ _ closing _ (fold_tokens_of body proper _ rfl)
      simp only [OpenForm.close, List.reverse_reverse]
      rfl
  | branch opening keyword test consequent alternate closing =>
      have entered := fold_keyword ready opening keyword .branch
        (test.tokens ++ (consequent.tokens ++ (alternate.tokens ++ [closing.token .closeParen])))
      rw [Phrase.tokens, show "if" = SpecialForm.branch.keyword from rfl, entered]
      rw [← List.append_assoc consequent.tokens, ← List.append_assoc test.tokens]
      apply fold_close parser _ _ closing [test.tree, consequent.tree, alternate.tree]
      · rw [List.foldlM_append, fold_tokens test proper.1 _ rfl, ok_bind, List.foldlM_append,
          fold_tokens consequent proper.2.1 _ (deliver_stage _ _), ok_bind,
          fold_tokens alternate proper.2.2 _ (deliver_stage _ _)]
        rfl
      · rfl
  | quote opening keyword form closing =>
      have entered := fold_keyword ready opening keyword .quote
        (form.tokens ++ [closing.token .closeParen])
      rw [Phrase.tokens, show "quote" = SpecialForm.quote.keyword from rfl, entered]
      exact fold_close parser _ _ closing [form.tree] (fold_tokens form proper _ rfl)
        rfl
  | lambda opening keyword bracket parameters bracketEnd body closing =>
      have entered := fold_keyword ready opening keyword .lambda
        (Phrase.listed bracket parameters bracketEnd ++
          (Phrase.tokensOf body ++ [closing.token .closeParen]))
      rw [Phrase.tokens, show "lambda" = SpecialForm.lambda.keyword from rfl, entered]
      simp only [enterSpecial]
      rw [fold_listed parser (opening.token .openParen) none _ _ _ _ rfl]
      apply fold_close parser _ _ closing _ (fold_tokens_of body proper _ rfl)
      simp only [OpenForm.close, List.reverse_reverse]
      rfl
  | apply opening callee arguments closing =>
      obtain ⟨first, more, spelled, -, -⟩ := callee.tokens_open
      have ordinary : ¬first.IsKeyword := proper.1 first (by simp [spelled])
      have opened : parser.step (opening.token .openParen) =
          .ok { parser with stage := .head (opening.token .openParen) } := by
        rw [step_forms ready]
        rfl
      rw [Phrase.tokens, List.foldlM_cons, opened, ok_bind, spelled, List.cons_append,
        fold_head _ _ _ _ ordinary, ← List.cons_append, ← spelled, ← List.append_assoc]
      apply fold_close parser _ _ closing (callee.tree :: Phrase.treesOf arguments)
      · rw [List.foldlM_append, fold_tokens callee proper.2.1 _ rfl, ok_bind,
          fold_tokens_of arguments proper.2.2 _ (deliver_stage _ _)]
        rfl
      · simp only [OpenForm.close, List.reverse_reverse]
        rfl
  | _ =>
      simp only [Phrase.tokens, List.foldlM_cons, step_forms ready]
      rfl

theorem fold_tokens_of (phrases : List Phrase) (proper : Phrase.AllProper phrases)
    (parser : Parser) (ready : parser.stage = .forms) :
    (Phrase.tokensOf phrases).foldlM step parser =
      .ok (parser.deliverAll (Phrase.treesOf phrases)) := by
  cases phrases with
  | nil => rfl
  | cons phrase rest =>
      rw [Phrase.tokensOf, List.foldlM_append, fold_tokens phrase proper.1 parser ready, ok_bind,
        fold_tokens_of rest proper.2 _ (deliver_stage _ _)]
      rfl

end

theorem start_deliver_all (trees finished : List Expr) :
    (⟨.forms, [], finished⟩ : Parser).deliverAll trees =
      ⟨.forms, [], trees.reverse ++ finished⟩ := by
  induction trees generalizing finished with
  | nil => rfl
  | cons tree trees ih =>
      change deliverAll ⟨.forms, [], tree :: finished⟩ trees = _
      rw [ih, List.reverse_cons, List.append_assoc]
      rfl

end Parser

/-- Parsing without a limit on nesting. -/
def readTokens (tokens : List Token) : Except ParseError (List Expr) := do
  let parser ← tokens.foldlM Parser.step {}
  parser.finish

theorem read_tokens_of_derives {tokens : List Token} {phrases : List Phrase} {trees : List Expr}
    (derives : Derives tokens phrases trees) : readTokens tokens = .ok trees := by
  obtain ⟨proper, rfl, rfl⟩ := derives
  unfold readTokens
  rw [Parser.fold_tokens_of phrases proper {} rfl, Parser.ok_bind, Parser.start_deliver_all]
  simp [Parser.finish, Parser.innermost?]

end Lisplet
