import Lisplet.Text.Spans

/-!
# Blank characters

The whitespace of Unicode, together with the four information separators.
-/

namespace Lisplet.Text

def blankSpans : Spans :=
  [(0x9, 0xD), (0x1C, 0x20), (0x85, 0x85), (0xA0, 0xA0), (0x1680, 0x1680),
    (0x2000, 0x200A), (0x2028, 0x2029), (0x202F, 0x202F), (0x205F, 0x205F), (0x3000, 0x3000)]

def isBlank (character : Char) : Bool :=
  blankSpans.contains character.toNat

/-- The information separators: blanks that are no whitespace of Unicode. -/
def isSeparator (character : Char) : Bool :=
  0x1C ≤ character.toNat && character.toNat ≤ 0x1F

def isSpace (character : Char) : Bool :=
  isBlank character && !isSeparator character

/-- Characters of a kind are dropped at both ends. -/
def trimWhere (drops : Char → Bool) (text : String) : String :=
  String.ofList
    ((text.toList.dropWhile drops).reverse.dropWhile drops).reverse

def trim (text : String) : String :=
  trimWhere isBlank text

/-- The words of a text, with the characters of the word being read in
reverse. -/
def wordsFrom : List Char → List Char → List String
  | [], [] => []
  | word, [] => [String.ofList word.reverse]
  | word, character :: rest =>
      if isBlank character then
        if word.isEmpty then wordsFrom [] rest
        else String.ofList word.reverse :: wordsFrom [] rest
      else wordsFrom (character :: word) rest

def words (text : String) : List String :=
  wordsFrom [] text.toList

end Lisplet.Text
