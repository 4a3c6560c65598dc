import Lisplet.Syntax.Expr
import Lisplet.Syntax.Scanner

/-!
# Parsing tokens into expressions

A parser reads one token at a time. It keeps the forms that are still open,
innermost first, and says what the next token is read as. When the tokens end,
the innermost open form is the one that lacks its closing parenthesis.
-/

namespace Lisplet

inductive SpecialForm where
  | define
  | branch
  | quote
  | lambda
  deriving DecidableEq

namespace SpecialForm

def keyword : SpecialForm → String
  | .define => "define"
  | .branch => "if"
  | .quote => "quote"
  | .lambda => "lambda"

def ofKeyword? (text : String) : Option SpecialForm :=
  if text = "define" then some .define
  else if text = "if" then some .branch
  else if text = "quote" then some .quote
  else if text = "lambda" then some .lambda
  else none

end SpecialForm

inductive ParseError where
  | unexpected (token : Token)
  | emptyApplication (opening : Token)
  /-- A special form whose head is broken off by a token. -/
  | malformed (form : SpecialForm) (opening token : Token)
  | wrongCount (form : SpecialForm) (opening : Token) (expected given : Nat)
  | badParameter (token : Token)
  | unterminated (opening : Token)
  deriving DecidableEq

/-- Why tokens are not parsed: they are no program, or nest deeper than the limit. -/
inductive ParseFailure where
  | refused (error : ParseError)
  | tooDeep
  deriving DecidableEq

inductive Shape where
  | application
  | binding (name : String)
  | conditional
  | quotation
  /-- A procedure, with its name unless it is a lambda. -/
  | procedure (name : Option String) (parameters : List String)

/-- A form with the expressions gathered so far, in reverse. -/
structure OpenForm where
  opening : Token
  shape : Shape
  gathered : List Expr := []

/-- How the next token is read. -/
inductive Stage where
  /-- As an expression or the end of the innermost open form. -/
  | forms
  /-- Behind an opening parenthesis. -/
  | head (opening : Token)
  /-- As the name that a definition binds. -/
  | naming (opening : Token)
  /-- Behind that name: parameters or a value. -/
  | named (opening : Token) (name : String)
  /-- As the bracket before the parameters of a lambda. -/
  | listing (opening : Token)
  /-- As a parameter or the bracket behind the last; the names are in reverse. -/
  | parameters (opening : Token) (name : Option String) (names : List String)

/-- Finished top-level forms are kept in reverse. -/
structure Parser where
  stage : Stage := .forms
  pending : List OpenForm := []
  finished : List Expr := []

namespace Token

def location (token : Token) : Option Location :=
  some ⟨token.place.line, token.place.column⟩

end Token

namespace OpenForm

def close (form : OpenForm) : Except ParseError Expr :=
  let location := form.opening.location
  match form.shape, form.gathered.reverse with
  | .application, [] => throw (.emptyApplication form.opening)
  | .application, callee :: arguments => return .apply location callee arguments
  | .binding name, [value] => return .define location name value
  | .binding _, others =>
      throw (.wrongCount .define form.opening 1 others.length)
  | .conditional, [test, consequent, alternate] =>
      return .branch location test consequent alternate
  | .conditional, others =>
      throw (.wrongCount .branch form.opening 3 others.length)
  | .quotation, [quoted] => return .quote location quoted
  | .quotation, others =>
      throw (.wrongCount .quote form.opening 1 others.length)
  | .procedure (some name) parameters, body =>
      return .procedure location name parameters body
  | .procedure none parameters, body => return .lambda location parameters body

end OpenForm

namespace Parser

def deliver (parser : Parser) (expression : Expr) : Parser :=
  match parser.pending with
  | [] => { parser with stage := .forms, finished := expression :: parser.finished }
  | form :: outer =>
      { parser with
        stage := .forms
        pending := { form with gathered := expression :: form.gathered } :: outer }

def gather (parser : Parser) (opening : Token) (shape : Shape) : Parser :=
  { parser with stage := .forms, pending := { opening, shape } :: parser.pending }

def readForm (parser : Parser) (token : Token) : Except ParseError Parser :=
  match token.lexeme with
  | .openParen => return { parser with stage := .head token }
  | .closeParen =>
      match parser.pending with
      | [] => throw (.unexpected token)
      | form :: outer => do
          let expression ← form.close
          return { parser with pending := outer }.deliver expression
  | .openBracket => throw (.unexpected token)
  | .closeBracket => throw (.unexpected token)
  | .name name => return parser.deliver (.reference token.location name)
  | .number value =>
      return parser.deliver (.literal token.location (.atom (.number value)))
  | .string text =>
      return parser.deliver (.literal token.location (.atom (.string text)))
  | .boolean value =>
      return parser.deliver (.literal token.location (.atom (.boolean value)))
  | .nil => return parser.deliver (.literal token.location (.atom .nil))

def enterSpecial (parser : Parser) (opening : Token) : SpecialForm → Parser
  | .define => { parser with stage := .naming opening }
  | .branch => parser.gather opening .conditional
  | .quote => parser.gather opening .quotation
  | .lambda => { parser with stage := .listing opening }

def specialForm? (token : Token) : Option SpecialForm :=
  match token.lexeme with
  | .name text => SpecialForm.ofKeyword? text
  | _ => none

def step (parser : Parser) (token : Token) : Except ParseError Parser :=
  match parser.stage with
  | .forms => parser.readForm token
  | .head opening =>
      match specialForm? token with
      | some form => return parser.enterSpecial opening form
      | none => (parser.gather opening .application).readForm token
  | .naming opening =>
      match token.lexeme with
      | .name name => return { parser with stage := .named opening name }
      | _ => throw (.malformed .define opening token)
  | .named opening name =>
      match token.lexeme with
      | .openBracket =>
          return { parser with stage := .parameters opening (some name) [] }
      | _ => (parser.gather opening (.binding name)).readForm token
  | .listing opening =>
      match token.lexeme with
      | .openBracket => return { parser with stage := .parameters opening none [] }
      | _ => throw (.malformed .lambda opening token)
  | .parameters opening name names =>
      match token.lexeme with
      | .closeBracket =>
          return parser.gather opening (.procedure name names.reverse)
      | .name parameter =>
          return { parser with
            stage := .parameters opening name (parameter :: names) }
      | _ => throw (.badParameter token)

def innermost? (parser : Parser) : Option Token :=
  match parser.stage with
  | .forms => parser.pending.head?.map OpenForm.opening
  | .head opening => some opening
  | .naming opening => some opening
  | .named opening _ => some opening
  | .listing opening => some opening
  | .parameters opening _ _ => some opening

def finish (parser : Parser) : Except ParseError (List Expr) :=
  match parser.innermost? with
  | some opening => .error (.unterminated opening)
  | none => .ok parser.finished.reverse

/-- The number of forms whose closing parenthesis is still to come. -/
def openForms (parser : Parser) : Nat :=
  match parser.stage with
  | .forms => parser.pending.length
  | _ => parser.pending.length + 1

def stepWithin (limit : Nat) (parser : Parser) (token : Token) :
    Except ParseFailure Parser :=
  match parser.step token with
  | .error error => .error (.refused error)
  | .ok next => if next.openForms ≤ limit then .ok next else .error .tooDeep

end Parser

/-- Parses tokens with forms nested up to a limit. -/
def parseTokens (limit : Nat) (tokens : List Token) :
    Except ParseFailure (List Expr) := do
  let parser ← tokens.foldlM (Parser.stepWithin limit) {}
  parser.finish.mapError .refused

namespace ParseError

def placeText (token : Token) : String :=
  "line " ++ toString token.place.line ++ ", column " ++
    toString token.place.column

def expectation : SpecialForm → String
  | .lambda => "A parameter list in brackets after lambda"
  | _ => "A name after define"

def malformedSample : SpecialForm → String
  | .lambda => "(lambda [x y] (+ x y))"
  | _ => "(define x 1) or (define square [x] (* x x))"

def countSample : SpecialForm → String
  | .branch => "(if (> x 0) \"positive\" \"not positive\")"
  | .quote => "(quote (a b c))"
  | _ => "(define x 1)"

/-- The diagnostic of a failed parse; the source only feeds the excerpt shown
for an unclosed form. -/
def diagnostic (source : String) : ParseError → Diagnostic
  | .unexpected token =>
      { message := "Unexpected token: " ++ token.lexeme.plainText
        position := some token.place.offset
        received := some ("Token: " ++ token.lexeme.plainText ++ " at " ++
          placeText token)
        expected := some "A number, string, boolean, nil, name or '('"
        sample := some "(display (+ 1 2))"
        suggestion := some
          "Check for an extra closing paren, or a '[' outside a parameter list" }
  | .emptyApplication opening =>
      { message := "Empty application: ()"
        position := some opening.place.offset
        received := some ("() at " ++ placeText opening)
        expected := some "A procedure followed by its arguments"
        sample := some "(f 1 2)"
        suggestion := some "Use (list) for an empty list" }
  | .malformed form opening token =>
      { message := "Malformed " ++ form.keyword ++ " at " ++ placeText opening
        position := some token.place.offset
        received := some ("Token: " ++ token.lexeme.plainText)
        expected := some (expectation form)
        sample := some (malformedSample form) }
  | .wrongCount form opening expected given =>
      let needed := toString expected ++ " form(s)"
      { message := form.keyword ++ " expects " ++ needed ++ ", got " ++
          toString given
        position := some opening.place.offset
        received := some (form.keyword ++ " with " ++ toString given ++
          " form(s) at " ++ placeText opening)
        expected := some ("Exactly " ++ needed ++ " after " ++ form.keyword)
        sample := some (countSample form) }
  | .badParameter token =>
      { message := "Parameter must be a name: " ++ token.lexeme.plainText
        position := some token.place.offset
        received := some ("Token: " ++ token.lexeme.plainText ++ " at " ++
          placeText token)
        expected := some "Names inside [ ]"
        sample := some "(lambda [x y] (+ x y))"
        suggestion := some "Parameters are unquoted names" }
  | .unterminated opening =>
      let snippet :=
        Text.joined " " (Text.words (excerpt source opening.place.offset 30))
      { message := "Unterminated list - missing closing parenthesis"
        position := some opening.place.offset
        received := some ("End of input inside form at " ++ placeText opening)
        expected := some "')' to close the form"
        sample := some "Correct: (+ 1 2)\nIncorrect: (+ 1 2"
        suggestion := some "Add the missing ')'"
        context :=
          if snippet.isEmpty then none else some ("Unclosed form: " ++ snippet) }

end ParseError

inductive SyntaxError where
  | scan (error : ScanError)
  | parse (failure : ParseFailure)
  deriving DecidableEq

def parseWithin (limit : Nat) (source : String) : Except SyntaxError (List Expr) :=
  match tokenize source with
  | .error error => .error (.scan error)
  | .ok tokens => (parseTokens limit tokens).mapError .parse

def parse (source : String) : Except SyntaxError (List Expr) :=
  parseWithin nestingLimit source

end Lisplet
