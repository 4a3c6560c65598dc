import Lisplet.Text.Blank
import Lisplet.Text.Letter

/-!
# Patterns

The tree of a regular expression with captured groups, and why a text may fail
to be one.
-/

namespace Lisplet

inductive CharacterClass where
  | digit
  | blank
  | word
  deriving DecidableEq

def CharacterClass.holds (kind : CharacterClass) (character : Char) : Bool :=
  match kind with
  | .digit => Text.isDecimal character
  | .blank => Text.isBlank character
  | .word => Text.isAlphanumeric character || character == '_'

inductive SetItem where
  | single (character : Char)
  | range (first last : Char)
  | member (kind : CharacterClass) (negated : Bool)
  deriving DecidableEq

def SetItem.holds (item : SetItem) (character : Char) : Bool :=
  match item with
  | .single other => character == other
  | .range first last =>
      first.toNat ≤ character.toNat && character.toNat ≤ last.toNat
  | .member kind negated => kind.holds character != negated

inductive Anchor where
  | textStart
  /-- The end of the text, or before a line feed that ends it. -/
  | lineEnd
  | textEnd
  | wordEdge
  | wordInside
  deriving DecidableEq

inductive Appetite where
  | greedy
  | lazy
  /-- Greedy, and what was taken is not given back. -/
  | possessive
  deriving DecidableEq

inductive Pattern where
  | empty
  | literal (character : Char)
  /-- Any character but a line feed. -/
  | any
  | set (negated : Bool) (items : List SetItem)
  | anchor (condition : Anchor)
  /-- A group; a numbered one captures what it matches. -/
  | group (number : Option Nat) (body : Pattern)
  /-- The text that a group captured. -/
  | reference (number : Nat)
  | sequence (first second : Pattern)
  | alternative (left right : Pattern)
  | repeated (body : Pattern) (least : Nat) (most : Option Nat)
      (appetite : Appetite)
  deriving DecidableEq

inductive PatternFlaw where
  | unterminatedSet
  | missingParenthesis
  | unbalancedParenthesis
  | nothingToRepeat
  | multipleRepeat
  | repeatBounds
  | badRange (range : String)
  | danglingEscape
  | badEscape (escape : String)
  | incompleteEscape (escape : String)
  | octalRange (escape : String)
  | invalidReference (number : Nat)
  | openReference
  | unknownExtension (extension : String)
  | unexpectedEnd
  deriving DecidableEq

inductive PatternError where
  /-- A flaw, and where in the pattern it stands. -/
  | flawed (flaw : PatternFlaw) (position : Nat)
  | repetitionTooLarge
  deriving DecidableEq

def PatternFlaw.text : PatternFlaw → String
  | .unterminatedSet => "unterminated character set"
  | .missingParenthesis => "missing ), unterminated subpattern"
  | .unbalancedParenthesis => "unbalanced parenthesis"
  | .nothingToRepeat => "nothing to repeat"
  | .multipleRepeat => "multiple repeat"
  | .repeatBounds => "min repeat greater than max repeat"
  | .badRange range => "bad character range " ++ range
  | .danglingEscape => "bad escape (end of pattern)"
  | .badEscape escape => "bad escape " ++ escape
  | .incompleteEscape escape => "incomplete escape " ++ escape
  | .octalRange escape =>
      "octal escape value " ++ escape ++ " outside of range 0-0o377"
  | .invalidReference number => "invalid group reference " ++ toString number
  | .openReference => "cannot refer to an open group"
  | .unknownExtension extension => "unknown extension " ++ extension
  | .unexpectedEnd => "unexpected end of pattern"

/-- The line and column of a position, for a pattern of several lines. -/
def linePlaceText (pattern : List Char) (position : Nat) : String :=
  if pattern.contains '\n' then
    let before := pattern.take position
    let column := (before.reverse.takeWhile (· != '\n')).length + 1
    " (line " ++ toString (before.count '\n' + 1) ++ ", column " ++
      toString column ++ ")"
  else ""

def PatternError.text (pattern : String) : PatternError → String
  | .flawed flaw position =>
      flaw.text ++ " at position " ++ toString position ++
        linePlaceText pattern.toList position
  | .repetitionTooLarge => "the repetition number is too large"

end Lisplet
