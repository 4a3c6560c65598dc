import Lisplet.Syntax.Datum

/-!
# Tokens

The lexical units of source text, each with the span it was read from. Offsets
count characters from zero; lines and columns count from one.
-/

namespace Lisplet

inductive Lexeme where
  | openParen
  | closeParen
  | openBracket
  | closeBracket
  | name (text : String)
  | number (value : Number)
  | string (text : String)
  | boolean (value : Bool)
  | nil
  deriving DecidableEq

namespace Lexeme

def kind : Lexeme → String
  | .openParen => "LPAREN"
  | .closeParen => "RPAREN"
  | .openBracket => "LBRACKET"
  | .closeBracket => "RBRACKET"
  | .name _ => "NAME"
  | .number _ => "NUMBER"
  | .string _ => "STRING"
  | .boolean _ => "BOOLEAN"
  | .nil => "NIL"

/-- The text that stands for the lexeme in messages. A number token was read
within the digit limit, so it has a text. -/
def plainText : Lexeme → String
  | .openParen => "("
  | .closeParen => ")"
  | .openBracket => "["
  | .closeBracket => "]"
  | .name text => text
  | .number value => value.text?.getD ""
  | .string text => text
  | .boolean value => if value then "True" else "False"
  | .nil => "None"

/-- Like `plainText`, with text in quotes. -/
def quotedText : Lexeme → String
  | .number value => value.text?.getD ""
  | .boolean value => if value then "True" else "False"
  | .nil => "None"
  | lexeme => Text.quoted lexeme.plainText

def atom? : Lexeme → Option Atom
  | .number value => some (.number value)
  | .string text => some (.string text)
  | .boolean value => some (.boolean value)
  | .nil => some .nil
  | _ => none

end Lexeme

structure Place where
  offset : Nat := 0
  line : Nat := 1
  column : Nat := 1
  deriving DecidableEq

/-- The place behind a character; only a line feed starts a line. -/
def Place.after (place : Place) (character : Char) : Place :=
  if character = '\n' then ⟨place.offset + 1, place.line + 1, 1⟩
  else ⟨place.offset + 1, place.line, place.column + 1⟩

structure Token where
  lexeme : Lexeme
  place : Place
  length : Nat
  deriving DecidableEq

def Token.text (token : Token) : String :=
  "PLispToken(" ++ token.lexeme.kind ++ ", " ++ token.lexeme.quotedText ++
    ", line=" ++ toString token.place.line ++
    ", col=" ++ toString token.place.column ++ ")"

end Lisplet
