import Lisplet.Config.Fault

/-!
# Places in a configuration text

A cursor holds what is left of a text and where that begins. Lines end at a line
feed, a carriage return, the next-line character, or one of the two Unicode
separators.
-/

namespace Lisplet.Config

structure Cursor where
  rest : List Char
  index : Nat := 0
  line : Nat := 0
  column : Nat := 0

def isBreak (character : Char) : Bool :=
  ['\n', '\r', '\u0085', '\u2028', '\u2029'].contains character

def isSpaceOrTab (character : Char) : Bool :=
  character = ' ' || character = '\t'

def endsLine (character : Option Char) : Bool :=
  character.all isBreak

def endsWord (character : Option Char) : Bool :=
  character.all fun found => isSpaceOrTab found || isBreak found

/-- The end of the text or of a line, or a space. -/
def endsItem (character : Option Char) : Bool :=
  character.all fun found => found = ' ' || isBreak found

def byteOrderMark : Char := '\ufeff'

namespace Cursor

def peek (cursor : Cursor) : Option Char := cursor.rest.head?

def peekAt (cursor : Cursor) (distance : Nat) : Option Char :=
  cursor.rest[distance]?

def sees (cursor : Cursor) (accepts : Char → Bool) : Bool :=
  cursor.peek.any accepts

/-- Moves past one character. A byte order mark takes no column. -/
def forward (cursor : Cursor) : Cursor :=
  match cursor.rest with
  | [] => cursor
  | character :: rest =>
      if isBreak character && !(character = '\r' && rest.head? = some '\n') then
        ⟨rest, cursor.index + 1, cursor.line + 1, 0⟩
      else if character = byteOrderMark then
        ⟨rest, cursor.index + 1, cursor.line, cursor.column⟩
      else ⟨rest, cursor.index + 1, cursor.line, cursor.column + 1⟩

def forwardBy : Nat → Cursor → Cursor
  | 0, cursor => cursor
  | count + 1, cursor => forwardBy count cursor.forward

def skip (accepts : Char → Bool) (cursor : Cursor) : Cursor :=
  forwardBy (cursor.rest.takeWhile accepts).length cursor

def takeAll (accepts : Char → Bool) (cursor : Cursor) : List Char × Cursor :=
  let taken := cursor.rest.takeWhile accepts
  (taken, forwardBy taken.length cursor)

/-- Reads the end of a line; all ends but the two separators are a line feed. -/
def lineBreak? (cursor : Cursor) : Option (Char × Cursor) :=
  match cursor.rest with
  | '\r' :: '\n' :: _ => some ('\n', forwardBy 2 cursor)
  | character :: _ =>
      if ['\n', '\r', '\u0085'].contains character then some ('\n', cursor.forward)
      else if ['\u2028', '\u2029'].contains character then
        some (character, cursor.forward)
      else none
  | [] => none

/-- Three dashes or dots that stand as a word of their own. -/
def seesWord (cursor : Cursor) (character : Char) : Bool :=
  cursor.rest.take 3 = [character, character, character] && endsWord (cursor.peekAt 3)

def seesSeparator (cursor : Cursor) : Bool :=
  cursor.seesWord '-' || cursor.seesWord '.'

def skipComment (cursor : Cursor) : Cursor :=
  if cursor.peek = some '#' then cursor.skip (!isBreak ·) else cursor

/-- Reads on to the end of a line that holds nothing more but a comment. -/
def skipLineRest (cursor : Cursor) : Except ConfigFault Cursor :=
  let behind := (cursor.skip (· = ' ')).skipComment
  if endsLine behind.peek then
    return (behind.lineBreak?.map Prod.snd).getD behind
  else throw .malformed

end Cursor

end Lisplet.Config
