import Lisplet.Syntax.Parser
import Mathlib.Tactic.Common

/-!
# The grammar of programs

A phrase is a derivation of one form: it says which alternative of the grammar
was taken and which tokens the form is made of. Brackets and keywords are marks,
so a phrase can be built only from tokens of the right kind. One rule remains to
be said apart: an application does not begin with a keyword.

The main result here is that a row of tokens has at most one derivation.
-/

namespace Lisplet

/-- Where a token stands: all of it but its lexeme. -/
structure Mark where
  place : Place
  length : Nat

namespace Mark

def token (mark : Mark) (lexeme : Lexeme) : Token :=
  ⟨lexeme, mark.place, mark.length⟩

def location (mark : Mark) : Option Location :=
  some ⟨mark.place.line, mark.place.column⟩

theorem token_inj {mark other : Mark} {lexeme otherLexeme : Lexeme} :
    mark.token lexeme = other.token otherLexeme ↔
      mark = other ∧ lexeme = otherLexeme := by
  cases mark
  cases other
  simp only [token, Token.mk.injEq, Mark.mk.injEq]
  tauto

end Mark

structure Label where
  mark : Mark
  text : String

def Label.token (label : Label) : Token :=
  label.mark.token (.name label.text)

theorem Label.token_inj {label other : Label} : label.token = other.token ↔ label = other := by
  cases label
  cases other
  simp [Label.token, Mark.token_inj]

/-- A derivation of a form, by the alternative that was taken. -/
inductive Phrase where
  | reference (label : Label)
  | number (mark : Mark) (value : Number)
  | string (mark : Mark) (text : String)
  | boolean (mark : Mark) (value : Bool)
  | nil (mark : Mark)
  | define (opening keyword : Mark) (name : Label) (value : Phrase) (closing : Mark)
  | procedure (opening keyword : Mark) (name : Label) (bracket : Mark)
      (parameters : List Label) (bracketEnd : Mark) (body : List Phrase)
      (closing : Mark)
  | branch (opening keyword : Mark) (test consequent alternate : Phrase)
      (closing : Mark)
  | quote (opening keyword : Mark) (form : Phrase) (closing : Mark)
  | lambda (opening keyword bracket : Mark) (parameters : List Label)
      (bracketEnd : Mark) (body : List Phrase) (closing : Mark)
  | apply (opening : Mark) (callee : Phrase) (arguments : List Phrase)
      (closing : Mark)

/-- A keyword in the place of a name. -/
def Token.IsKeyword (token : Token) : Prop :=
  ∃ form : SpecialForm, token.lexeme = .name form.keyword

namespace Expr

mutual

def nodes : Expr → List Expr
  | .apply location callee arguments =>
      .apply location callee arguments :: (callee.nodes ++ nodesOf arguments)
  | .branch location test consequent alternate =>
      .branch location test consequent alternate ::
        (test.nodes ++ consequent.nodes ++ alternate.nodes)
  | .define location name value => .define location name value :: value.nodes
  | .procedure location name parameters body =>
      .procedure location name parameters body :: nodesOf body
  | .lambda location parameters body => .lambda location parameters body :: nodesOf body
  | .quote location form => .quote location form :: form.nodes
  | expression => [expression]

def nodesOf : List Expr → List Expr
  | [] => []
  | expression :: rest => expression.nodes ++ nodesOf rest

end

end Expr

namespace Phrase

def listed (bracket : Mark) (parameters : List Label) (bracketEnd : Mark) : List Token :=
  bracket.token .openBracket :: parameters.map Label.token ++
    [bracketEnd.token .closeBracket]

mutual

/-- The tokens that a phrase is made of. -/
def tokens : Phrase → List Token
  | .reference label => [label.token]
  | .number mark value => [mark.token (.number value)]
  | .string mark text => [mark.token (.string text)]
  | .boolean mark value => [mark.token (.boolean value)]
  | .nil mark => [mark.token .nil]
  | .define opening keyword name value closing =>
      opening.token .openParen :: keyword.token (.name "define") :: name.token ::
        (value.tokens ++ [closing.token .closeParen])
  | .procedure opening keyword name bracket parameters bracketEnd body closing =>
      opening.token .openParen :: keyword.token (.name "define") :: name.token ::
        (listed bracket parameters bracketEnd ++ (tokensOf body ++ [closing.token .closeParen]))
  | .branch opening keyword test consequent alternate closing =>
      opening.token .openParen :: keyword.token (.name "if") ::
        (test.tokens ++ (consequent.tokens ++ (alternate.tokens ++ [closing.token .closeParen])))
  | .quote opening keyword form closing =>
      opening.token .openParen :: keyword.token (.name "quote") ::
        (form.tokens ++ [closing.token .closeParen])
  | .lambda opening keyword bracket parameters bracketEnd body closing =>
      opening.token .openParen :: keyword.token (.name "lambda") ::
        (listed bracket parameters bracketEnd ++ (tokensOf body ++ [closing.token .closeParen]))
  | .apply opening callee arguments closing =>
      opening.token .openParen ::
        (callee.tokens ++ (tokensOf arguments ++ [closing.token .closeParen]))

def tokensOf : List Phrase → List Token
  | [] => []
  | phrase :: rest => phrase.tokens ++ tokensOf rest

end

mutual

/-- The tree that a phrase derives; every node stands where its phrase opens. -/
def tree : Phrase → Expr
  | .reference label => .reference label.mark.location label.text
  | .number mark value => .literal mark.location (.atom (.number value))
  | .string mark text => .literal mark.location (.atom (.string text))
  | .boolean mark value => .literal mark.location (.atom (.boolean value))
  | .nil mark => .literal mark.location (.atom .nil)
  | .define opening _ name value _ => .define opening.location name.text value.tree
  | .procedure opening _ name _ parameters _ body _ =>
      .procedure opening.location name.text (parameters.map Label.text) (treesOf body)
  | .branch opening _ test consequent alternate _ =>
      .branch opening.location test.tree consequent.tree alternate.tree
  | .quote opening _ form _ => .quote opening.location form.tree
  | .lambda opening _ _ parameters _ body _ =>
      .lambda opening.location (parameters.map Label.text) (treesOf body)
  | .apply opening callee arguments _ =>
      .apply opening.location callee.tree (treesOf arguments)

def treesOf : List Phrase → List Expr
  | [] => []
  | phrase :: rest => phrase.tree :: treesOf rest

end

mutual

/-- No application in the phrase begins with a keyword. -/
def Proper : Phrase → Prop
  | .define _ _ _ value _ => value.Proper
  | .procedure _ _ _ _ _ _ body _ => AllProper body
  | .branch _ _ test consequent alternate _ =>
      test.Proper ∧ consequent.Proper ∧ alternate.Proper
  | .quote _ _ form _ => form.Proper
  | .lambda _ _ _ _ _ body _ => AllProper body
  | .apply _ callee arguments _ =>
      (∀ first ∈ callee.tokens.head?, ¬first.IsKeyword) ∧ callee.Proper ∧
        AllProper arguments
  | _ => True

def AllProper : List Phrase → Prop
  | [] => True
  | phrase :: rest => phrase.Proper ∧ AllProper rest

end

mutual

/-- A phrase and every phrase inside it. -/
def parts : Phrase → List Phrase
  | .define opening keyword name value closing =>
      .define opening keyword name value closing :: value.parts
  | .procedure opening keyword name bracket parameters bracketEnd body closing =>
      .procedure opening keyword name bracket parameters bracketEnd body closing ::
        partsOf body
  | .branch opening keyword test consequent alternate closing =>
      .branch opening keyword test consequent alternate closing ::
        (test.parts ++ consequent.parts ++ alternate.parts)
  | .quote opening keyword form closing =>
      .quote opening keyword form closing :: form.parts
  | .lambda opening keyword bracket parameters bracketEnd body closing =>
      .lambda opening keyword bracket parameters bracketEnd body closing :: partsOf body
  | .apply opening callee arguments closing =>
      .apply opening callee arguments closing :: (callee.parts ++ partsOf arguments)
  | phrase => [phrase]

def partsOf : List Phrase → List Phrase
  | [] => []
  | phrase :: rest => phrase.parts ++ partsOf rest

end

def closers : List Lexeme := [.closeParen, .openBracket, .closeBracket]

/-- A phrase is not empty, its first token is none of the closers, and its node
stands at that token. -/
theorem tokens_open (phrase : Phrase) :
    ∃ first rest, phrase.tokens = first :: rest ∧ first.lexeme ∉ closers ∧
      phrase.tree.location = first.location := by
  cases phrase <;>
    exact ⟨_, _, rfl, by simp [closers, Mark.token, Label.token], rfl⟩

mutual

theorem nodes_tree (phrase : Phrase) : phrase.tree.nodes = phrase.parts.map tree := by
  cases phrase with
  | define opening keyword name value closing =>
      simp only [tree, Expr.nodes, parts, List.map_cons, nodes_tree value]
  | procedure opening keyword name bracket parameters bracketEnd body closing =>
      simp only [tree, Expr.nodes, parts, List.map_cons, nodes_trees_of body]
  | branch opening keyword test consequent alternate closing =>
      simp only [tree, Expr.nodes, parts, List.map_cons, List.map_append, nodes_tree test,
        nodes_tree consequent, nodes_tree alternate]
  | quote opening keyword form closing =>
      simp only [tree, Expr.nodes, parts, List.map_cons, nodes_tree form]
  | lambda opening keyword bracket parameters bracketEnd body closing =>
      simp only [tree, Expr.nodes, parts, List.map_cons, nodes_trees_of body]
  | apply opening callee arguments closing =>
      simp only [tree, Expr.nodes, parts, List.map_cons, List.map_append, nodes_tree callee,
        nodes_trees_of arguments]
  | _ => rfl

theorem nodes_trees_of (phrases : List Phrase) :
    Expr.nodesOf (treesOf phrases) = (partsOf phrases).map tree := by
  cases phrases with
  | nil => rfl
  | cons phrase rest =>
      simp only [treesOf, Expr.nodesOf, partsOf, List.map_append, nodes_tree phrase,
        nodes_trees_of rest]

end

/-- The beginning of a phrase, as far as it tells the alternatives apart. -/
inductive Beginning where
  | word (lexeme : Lexeme)
  | definition (bracketed : Bool)
  | branch
  | quotation
  | lambda
  | application

def beginning : Phrase → Beginning
  | .reference label => .word (.name label.text)
  | .number _ value => .word (.number value)
  | .string _ text => .word (.string text)
  | .boolean _ value => .word (.boolean value)
  | .nil _ => .word .nil
  | .define .. => .definition false
  | .procedure .. => .definition true
  | .branch .. => .branch
  | .quote .. => .quotation
  | .lambda .. => .lambda
  | .apply .. => .application

/-- The same, read off the tokens. A definition shows at its fourth token whether
it has parameters. -/
def beginningOf : List Token → Option Beginning
  | [] => none
  | first :: rest =>
      if first.lexeme = .openParen then
        match rest with
        | [] => none
        | second :: more =>
            if second.lexeme = .name "define" then
              match more with
              | _ :: fourth :: _ =>
                  some (.definition (decide (fourth.lexeme = .openBracket)))
              | _ => none
            else if second.lexeme = .name "if" then some .branch
            else if second.lexeme = .name "quote" then some .quotation
            else if second.lexeme = .name "lambda" then some .lambda
            else some .application
      else some (.word first.lexeme)

theorem beginning_of_tokens (phrase : Phrase) (proper : phrase.Proper) (rest : List Token) :
    beginningOf (phrase.tokens ++ rest) = some phrase.beginning := by
  cases phrase with
  | define opening keyword name value closing =>
      obtain ⟨first, more, spelled, opens, -⟩ := value.tokens_open
      have unbracketed : first.lexeme ≠ .openBracket := by
        intro same
        exact opens (by simp [closers, same])
      simp [tokens, beginningOf, beginning, Mark.token, spelled, unbracketed]
  | apply opening callee arguments closing =>
      obtain ⟨first, more, spelled, -, -⟩ := callee.tokens_open
      have ordinary : ¬first.IsKeyword := proper.1 first (by simp [spelled])
      have apart (form : SpecialForm) : first.lexeme ≠ .name form.keyword :=
        fun same => ordinary ⟨form, same⟩
      have noDefine : first.lexeme ≠ .name "define" := apart .define
      have noBranch : first.lexeme ≠ .name "if" := apart .branch
      have noQuote : first.lexeme ≠ .name "quote" := apart .quote
      have noLambda : first.lexeme ≠ .name "lambda" := apart .lambda
      simp [tokens, beginningOf, beginning, Mark.token, spelled, noDefine, noBranch,
        noQuote, noLambda]
  | _ => simp [tokens, beginningOf, beginning, Mark.token, Label.token, listed]

/-- Where a row of phrases can end: before a closing parenthesis or at the end of
all tokens. -/
def Ends (rest : List Token) : Prop :=
  ∀ next ∈ rest.head?, next.lexeme = .closeParen

theorem ends_nil : Ends [] := by
  simp [Ends]

theorem ends_close (closing : Mark) (rest : List Token) :
    Ends (closing.token .closeParen :: rest) := by
  simp [Ends, Mark.token]

theorem tokens_of_ne_end (phrase : Phrase) (phrases : List Phrase) {rest more : List Token}
    (ends : Ends rest) : tokensOf (phrase :: phrases) ++ more ≠ rest := by
  obtain ⟨first, others, spelled, opens, -⟩ := phrase.tokens_open
  intro same
  have closes : first.lexeme = .closeParen := by
    apply ends first
    simp [← same, tokensOf, spelled]
  exact opens (by simp [closers, closes])

theorem close_cancel {closing other : Mark} {rest otherRest : List Token}
    (same : closing.token .closeParen :: rest = other.token .closeParen :: otherRest) :
    closing = other ∧ rest = otherRest := by
  simpa only [List.cons.injEq, Mark.token_inj, and_true] using same

theorem listed_cancel {bracket other bracketEnd otherEnd : Mark}
    {parameters others : List Label} {rest otherRest : List Token}
    (same : listed bracket parameters bracketEnd ++ rest =
      listed other others otherEnd ++ otherRest) :
    bracket = other ∧ parameters = others ∧ bracketEnd = otherEnd ∧ rest = otherRest := by
  simp only [listed, List.cons_append, List.cons.injEq, Mark.token_inj, and_true,
    List.append_assoc, List.nil_append] at same
  obtain ⟨brackets, same⟩ := same
  refine ⟨brackets, ?_⟩
  induction parameters generalizing others with
  | nil =>
      cases others with
      | nil => simpa [Mark.token_inj] using same
      | cons label more => simp [Label.token, Mark.token_inj] at same
  | cons label parameters ih =>
      cases others with
      | nil => simp [Label.token, Mark.token_inj] at same
      | cons otherLabel others =>
          simp only [List.map_cons, List.cons_append, List.cons.injEq, Label.token_inj] at same
          obtain ⟨heads, same⟩ := same
          obtain ⟨tails, ends, rests⟩ := ih same
          exact ⟨by rw [heads, tails], ends, rests⟩

mutual

/-- A phrase is told by the tokens it opens with, whatever follows it. -/
theorem tokens_cancel (phrase other : Phrase) (rest otherRest : List Token)
    (proper : phrase.Proper) (otherProper : other.Proper)
    (same : phrase.tokens ++ rest = other.tokens ++ otherRest) :
    phrase = other ∧ rest = otherRest := by
  have begins : phrase.beginning = other.beginning := by
    have read := beginning_of_tokens phrase proper rest
    rw [same, beginning_of_tokens other otherProper otherRest] at read
    exact (Option.some.inj read).symm
  -- Two phrases that begin alike are made by one alternative.
  cases phrase <;> cases other <;>
    simp only [beginning, Beginning.word.injEq, Beginning.definition.injEq, reduceCtorEq] at begins
  case reference.reference label label' =>
    simpa [tokens, Label.token_inj] using same
  case number.number mark value mark' value' =>
    simpa [tokens, Mark.token_inj] using same
  case string.string mark text mark' text' =>
    simpa [tokens, Mark.token_inj] using same
  case boolean.boolean mark value mark' value' =>
    simpa [tokens, Mark.token_inj] using same
  case nil.nil mark mark' =>
    simpa [tokens, Mark.token_inj] using same
  case define.define opening keyword name value closing opening' keyword' name' value' closing' =>
    simp only [tokens, List.cons_append, List.append_assoc, List.nil_append, List.cons.injEq,
      Mark.token_inj, Label.token_inj, and_true] at same
    obtain ⟨openings, keywords, names, same⟩ := same
    obtain ⟨values, same⟩ := tokens_cancel value value' _ _ proper otherProper same
    obtain ⟨closings, rests⟩ := close_cancel same
    exact ⟨by rw [openings, keywords, names, values, closings], rests⟩
  case procedure.procedure opening keyword name bracket parameters bracketEnd body closing
      opening' keyword' name' bracket' parameters' bracketEnd' body' closing' =>
    simp only [tokens, List.cons_append, List.append_assoc, List.nil_append, List.cons.injEq,
      Mark.token_inj, Label.token_inj, and_true] at same
    obtain ⟨openings, keywords, names, same⟩ := same
    obtain ⟨brackets, lists, bracketEnds, same⟩ := listed_cancel same
    obtain ⟨bodies, same⟩ := tokens_of_cancel body body' _ _ proper otherProper
      (ends_close _ _) (ends_close _ _) same
    obtain ⟨closings, rests⟩ := close_cancel same
    exact ⟨by rw [openings, keywords, names, brackets, lists, bracketEnds, bodies, closings],
      rests⟩
  case branch.branch opening keyword test consequent alternate closing
      opening' keyword' test' consequent' alternate' closing' =>
    simp only [tokens, List.cons_append, List.append_assoc, List.nil_append, List.cons.injEq,
      Mark.token_inj, and_true] at same
    obtain ⟨openings, keywords, same⟩ := same
    obtain ⟨tests, same⟩ := tokens_cancel test test' _ _ proper.1 otherProper.1 same
    obtain ⟨consequents, same⟩ :=
      tokens_cancel consequent consequent' _ _ proper.2.1 otherProper.2.1 same
    obtain ⟨alternates, same⟩ :=
      tokens_cancel alternate alternate' _ _ proper.2.2 otherProper.2.2 same
    obtain ⟨closings, rests⟩ := close_cancel same
    exact ⟨by rw [openings, keywords, tests, consequents, alternates, closings], rests⟩
  case quote.quote opening keyword form closing opening' keyword' form' closing' =>
    simp only [tokens, List.cons_append, List.append_assoc, List.nil_append, List.cons.injEq,
      Mark.token_inj, and_true] at same
    obtain ⟨openings, keywords, same⟩ := same
    obtain ⟨forms, same⟩ := tokens_cancel form form' _ _ proper otherProper same
    obtain ⟨closings, rests⟩ := close_cancel same
    exact ⟨by rw [openings, keywords, forms, closings], rests⟩
  case lambda.lambda opening keyword bracket parameters bracketEnd body closing
      opening' keyword' bracket' parameters' bracketEnd' body' closing' =>
    simp only [tokens, List.cons_append, List.append_assoc, List.nil_append, List.cons.injEq,
      Mark.token_inj, and_true] at same
    obtain ⟨openings, keywords, same⟩ := same
    obtain ⟨brackets, lists, bracketEnds, same⟩ := listed_cancel same
    obtain ⟨bodies, same⟩ := tokens_of_cancel body body' _ _ proper otherProper
      (ends_close _ _) (ends_close _ _) same
    obtain ⟨closings, rests⟩ := close_cancel same
    exact ⟨by rw [openings, keywords, brackets, lists, bracketEnds, bodies, closings], rests⟩
  case apply.apply opening callee arguments closing opening' callee' arguments' closing' =>
    simp only [tokens, List.cons_append, List.append_assoc, List.nil_append, List.cons.injEq,
      Mark.token_inj, and_true] at same
    obtain ⟨openings, same⟩ := same
    obtain ⟨callees, same⟩ := tokens_cancel callee callee' _ _ proper.2.1 otherProper.2.1 same
    obtain ⟨operands, same⟩ := tokens_of_cancel arguments arguments' _ _ proper.2.2
      otherProper.2.2 (ends_close _ _) (ends_close _ _) same
    obtain ⟨closings, rests⟩ := close_cancel same
    exact ⟨by rw [openings, callees, operands, closings], rests⟩

theorem tokens_of_cancel (phrases others : List Phrase) (rest otherRest : List Token)
    (proper : AllProper phrases) (otherProper : AllProper others)
    (ends : Ends rest) (otherEnds : Ends otherRest)
    (same : tokensOf phrases ++ rest = tokensOf others ++ otherRest) :
    phrases = others ∧ rest = otherRest := by
  cases phrases with
  | nil =>
      cases others with
      | nil => simpa [tokensOf] using same
      | cons other others => exact absurd same.symm (tokens_of_ne_end other others ends)
  | cons phrase phrases =>
      cases others with
      | nil => exact absurd same (tokens_of_ne_end phrase phrases otherEnds)
      | cons other others =>
          simp only [tokensOf, List.append_assoc] at same
          obtain ⟨heads, same⟩ := tokens_cancel phrase other _ _ proper.1 otherProper.1 same
          obtain ⟨tails, rests⟩ := tokens_of_cancel phrases others rest otherRest proper.2
            otherProper.2 ends otherEnds same
          exact ⟨by rw [heads, tails], rests⟩

end

end Phrase

/-- The phrases derive the trees from all of the tokens. -/
structure Derives (tokens : List Token) (phrases : List Phrase) (trees : List Expr) : Prop where
  proper : Phrase.AllProper phrases
  spelled : Phrase.tokensOf phrases = tokens
  trees : Phrase.treesOf phrases = trees

/-- The grammar is unambiguous. -/
theorem Derives.unique {tokens : List Token} {phrases others : List Phrase}
    {trees otherTrees : List Expr} (derives : Derives tokens phrases trees)
    (otherDerives : Derives tokens others otherTrees) : phrases = others := by
  have same : Phrase.tokensOf phrases ++ [] = Phrase.tokensOf others ++ [] := by
    rw [derives.spelled, otherDerives.spelled]
  exact (Phrase.tokens_of_cancel phrases others [] [] derives.proper otherDerives.proper
    Phrase.ends_nil Phrase.ends_nil same).1

end Lisplet
