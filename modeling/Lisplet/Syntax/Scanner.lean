import Lisplet.Syntax.Diagnostic
import Lisplet.Syntax.Token
import Lisplet.Text.Blank
import Lisplet.Text.Letter

/-!
# Scanning source text into tokens

A scanner reads one character at a time and remembers the token it is inside of.
Scanning a text is a fold over its characters, so scanning a concatenation is
scanning its parts in turn.
-/

namespace Lisplet

inductive ScanError where
  | invalidCharacter (character : Char) (place : Place)
  | invalidEscape (next : Option Char) (offset : Nat)
  | unterminatedString (start : Place)
  | malformedNumber (text : String) (start : Place)
  /-- An integer of more digits than can be read. -/
  | tooManyDigits (count : Nat)
  deriving DecidableEq

/-- What the scanner is inside of; texts being read are kept in reverse. -/
inductive ScanMode where
  | gap
  | comment
  | string (start : Place) (text : List Char)
  /-- Behind a backslash in a string. -/
  | escape (start : Place) (text : List Char)
  | number (start : Place) (text : List Char)
  | name (start : Place) (text : List Char)
  deriving DecidableEq

/-- Tokens read so far are kept in reverse. -/
structure Scanner where
  place : Place := {}
  mode : ScanMode := .gap
  tokens : List Token := []
  deriving DecidableEq

namespace Scanner

/-- Characters besides letters and numerals that names are made of. -/
def symbols : List Char :=
  ['_', '-', '+', '*', '%', '=', '^', '?', '/', '>', '<', '|', '\\', '!']

def startsName (character : Char) : Bool :=
  Text.isLetter character || symbols.contains character

def continuesName (character : Char) : Bool :=
  Text.isAlphanumeric character || symbols.contains character

def isGap (character : Char) : Bool :=
  Text.isBlank character || character == ','

def isDelimiter (character : Char) : Bool :=
  isGap character || ['(', ')', '[', ']', '"', ';'].contains character

def bracket? : Char → Option Lexeme
  | '(' => some .openParen
  | ')' => some .closeParen
  | '[' => some .openBracket
  | ']' => some .closeBracket
  | _ => none

def escape? : Char → Option Char
  | '"' => some '"'
  | '\\' => some '\\'
  | 'n' => some '\n'
  | 't' => some '\t'
  | 'r' => some '\r'
  | _ => none

def nameLexeme (text : String) : Lexeme :=
  if text = "true" then .boolean true
  else if text = "false" then .boolean false
  else if text = "nil" then .nil
  else .name text

def isDigits (text : List Char) : Bool :=
  !text.isEmpty && text.all Char.isDigit

def number (text : List Char) (start : Place) : Except ScanError Number :=
  let whole := text.takeWhile (· != '.')
  match text.dropWhile (· != '.') with
  | [] =>
      if !isDigits whole then .error (.malformedNumber (String.ofList text) start)
      else if Number.digitLimit < whole.length then
        .error (.tooManyDigits whole.length)
      else .ok (.int (Decimal.digitsValue whole))
  | _ :: fraction =>
      if !isDigits whole || !isDigits fraction then
        .error (.malformedNumber (String.ofList text) start)
      else .ok (.float (Double.ofDigits false whole fraction 0))

/-- The scanner behind the token it is inside of, if that token may end here. -/
def settle (scanner : Scanner) : Except ScanError Scanner :=
  match scanner.mode with
  | .number start text => do
      let value ← number text.reverse start
      return { scanner with
        mode := .gap
        tokens := ⟨.number value, start, text.length⟩ :: scanner.tokens }
  | .name start text =>
      return { scanner with
        mode := .gap
        tokens :=
          ⟨nameLexeme (String.ofList text.reverse), start, text.length⟩ ::
            scanner.tokens }
  | _ => return scanner

def enter (scanner : Scanner) (character : Char) (mode : ScanMode) : Scanner :=
  { scanner with place := scanner.place.after character, mode }

def start (scanner : Scanner) (character : Char) : Except ScanError Scanner :=
  if isGap character then return scanner.enter character .gap
  else if character = ';' then return scanner.enter character .comment
  else
    match bracket? character with
    | some lexeme =>
        return { scanner.enter character .gap with
          tokens := ⟨lexeme, scanner.place, 1⟩ :: scanner.tokens }
    | none =>
        if character = '"' then
          return scanner.enter character (.string scanner.place [])
        else if character.isDigit then
          return scanner.enter character (.number scanner.place [character])
        else if startsName character then
          return scanner.enter character (.name scanner.place [character])
        else throw (.invalidCharacter character scanner.place)

def step (scanner : Scanner) (character : Char) : Except ScanError Scanner :=
  match scanner.mode with
  | .gap => scanner.start character
  | .comment =>
      return scanner.enter character (if character = '\n' then .gap else .comment)
  | .string start text =>
      if character = '"' then
        return { scanner.enter character .gap with
          tokens :=
            ⟨.string (String.ofList text.reverse), start,
              scanner.place.offset + 1 - start.offset⟩ :: scanner.tokens }
      else if character = '\\' then
        return scanner.enter character (.escape start text)
      else return scanner.enter character (.string start (character :: text))
  | .escape start text =>
      match escape? character with
      | some escaped =>
          return scanner.enter character (.string start (escaped :: text))
      | none => throw (.invalidEscape (some character) (scanner.place.offset - 1))
  | .number start text =>
      if isDelimiter character then do
        let settled ← scanner.settle
        settled.start character
      else return scanner.enter character (.number start (character :: text))
  | .name start text =>
      if continuesName character then
        return scanner.enter character (.name start (character :: text))
      else do
        let settled ← scanner.settle
        settled.start character

def finish (scanner : Scanner) : Except ScanError (List Token) :=
  match scanner.mode with
  | .string start _ => .error (.unterminatedString start)
  | .escape _ _ => .error (.invalidEscape none (scanner.place.offset - 1))
  | _ => do
      let settled ← scanner.settle
      return settled.tokens.reverse

end Scanner

def tokenize (source : String) : Except ScanError (List Token) := do
  let scanner ← source.toList.foldlM Scanner.step {}
  scanner.finish

def excerpt (source : String) (offset count : Nat) : String :=
  String.ofList ((source.toList.drop offset).take count)

/-- The diagnostic of a failed scan; an integer that is too long has none. -/
def ScanError.diagnostic? (source : String) : ScanError → Option Diagnostic
  | .invalidCharacter character place =>
      let shown := Text.quoted (String.singleton character)
      some {
        message := "Invalid character: " ++ shown
        position := some place.offset
        received := some ("Character: " ++ shown ++ " at line " ++
          toString place.line ++ ", column " ++ toString place.column)
        expected := some "Parentheses, brackets, a name, a number or a string"
        sample := some "(define greet [name] (display \"hello\" name))"
        suggestion := some ("Remove " ++ shown ++ " or put it inside a string") }
  | .invalidEscape next offset =>
      let shown := "\\" ++ (next.map String.singleton).getD ""
      some {
        message := "Invalid escape sequence: " ++ shown
        position := some offset
        received := some ("Escape sequence: " ++ shown)
        expected := some "Valid escape: \\n, \\t, \\r, \\\" or \\\\"
        sample := some "\"line1\\nline2\""
        suggestion := some "Use a valid escape sequence or remove the backslash" }
  | .unterminatedString start =>
      some {
        message := "Unterminated string literal"
        position := some start.offset
        received := some ("String starting with: " ++
          excerpt source start.offset 10 ++ "...")
        expected := some "Closing quote \" at end of string"
        sample := some "Correct: \"hello world\"\nIncorrect: \"hello world"
        suggestion := some "Add closing quote \" at the end of the string" }
  | .malformedNumber text start =>
      some {
        message := "Invalid number format: " ++ text
        position := some start.offset
        received := some ("Malformed number token: " ++ text)
        expected := some "Digits, optionally followed by '.' and more digits"
        sample := some "Valid: 42, 3.14"
        suggestion := some "Names cannot start with a digit" }
  | .tooManyDigits _ => none

end Lisplet
