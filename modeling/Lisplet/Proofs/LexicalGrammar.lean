import Lisplet.Proofs.Numerals

/-!
# The lexical grammar

A source text is a row of lexemes with gaps around them. Numbers and names depend on
what follows them, and so do comments, so the grammar relates each piece of text to the
text behind it. It spells out the classes of characters it needs, and these turn out to be
the ones that the scanner goes by.

A text falls into pieces in one way only: where they begin and how long they are settles
what they are.
-/

namespace Lisplet

namespace Lexical

/-- White space or a comma. -/
def Separates (character : Char) : Prop :=
  Text.isBlank character = true ∨ character = ','

def Delimits (character : Char) : Prop :=
  Separates character ∨ character ∈ "()[]\";".toList

/-- A letter, or a symbol that names are written with. -/
def Begins (character : Char) : Prop :=
  Text.isLetter character = true ∨ character ∈ "_-+*%=^?/><|\\!".toList

def Continues (character : Char) : Prop :=
  Begins character ∨ Text.isNumeral character = true

/-- Nothing follows, or a character of some class. -/
def EndsAt (stops : Char → Prop) (rest : List Char) : Prop :=
  ∀ next ∈ rest.head?, stops next

/-- What may stand between lexemes, with what follows it: blanks, commas and comments. A
comment goes on to the end of its line or of the text. -/
inductive Gap : List Char → List Char → Prop where
  | nil (rest : List Char) : Gap [] rest
  | blank {character : Char} {text rest : List Char} (blank : Separates character)
      (more : Gap text rest) : Gap (character :: text) rest
  | comment {line text rest : List Char} (inLine : ∀ character ∈ line, character ≠ '\n')
      (ends : EndsAt (· = '\n') (text ++ rest)) (more : Gap text rest) :
      Gap (';' :: line ++ text) rest

/-- The characters that may be written behind a backslash, with what they mean there. -/
def escapes : List (Char × Char) :=
  [('"', '"'), ('\\', '\\'), ('n', '\n'), ('t', '\t'), ('r', '\r')]

/-- The inside of a string literal as it is written, and the text it stands for. -/
inductive Inside : List Char → List Char → Prop where
  | nil : Inside [] []
  | plain {character : Char} {written meant : List Char} (noQuote : character ≠ '"')
      (noBackslash : character ≠ '\\') (more : Inside written meant) :
      Inside (character :: written) (character :: meant)
  | escape {behind stands : Char} {written meant : List Char} (known : (behind, stands) ∈ escapes)
      (more : Inside written meant) : Inside ('\\' :: behind :: written) (stands :: meant)

structure Digits (text : List Char) : Prop where
  some : text ≠ []
  all : ∀ character ∈ text, character.isDigit = true

/-- What a word stands for: three of them for values, all others for themselves. -/
inductive Word : List Char → Lexeme → Prop where
  | truth : Word "true".toList (.boolean true)
  | falsehood : Word "false".toList (.boolean false)
  | nothing : Word "nil".toList .nil
  | name {text : List Char} (noTruth : text ≠ "true".toList) (noFalsehood : text ≠ "false".toList)
      (noNothing : text ≠ "nil".toList) : Word text (.name (String.ofList text))

/-- A text is a lexeme, given what follows it. -/
inductive Lexes : List Char → Lexeme → List Char → Prop where
  | openParen (rest : List Char) : Lexes ['('] .openParen rest
  | closeParen (rest : List Char) : Lexes [')'] .closeParen rest
  | openBracket (rest : List Char) : Lexes ['['] .openBracket rest
  | closeBracket (rest : List Char) : Lexes [']'] .closeBracket rest
  | string {written meant : List Char} (inside : Inside written meant) (rest : List Char) :
      Lexes ('"' :: (written ++ ['"'])) (.string (String.ofList meant)) rest
  | integer {text rest : List Char} (digits : Digits text)
      (short : text.length ≤ Number.digitLimit) (ends : EndsAt Delimits rest) :
      Lexes text (.number (.int (Nat.ofDigitChars 10 text 0))) rest
  | decimal {whole fraction rest : List Char} (before : Digits whole) (behind : Digits fraction)
      (ends : EndsAt Delimits rest) :
      Lexes (whole ++ '.' :: fraction)
        (.number (.float (Double.ofDigits false whole fraction 0))) rest
  | word {first : Char} {more rest : List Char} {lexeme : Lexeme}
      (starts : Begins first) (continues : ∀ character ∈ more, Continues character)
      (ends : EndsAt (¬Continues ·) rest)
      (stands : Word (first :: more) lexeme) : Lexes (first :: more) lexeme rest

/-- A lexeme with its text and the gap before it. -/
structure Piece where
  gap : List Char
  text : List Char
  lexeme : Lexeme

/-- A text begins with pieces, and then something follows. -/
inductive Reads : List Char → List Piece → List Char → Prop where
  | done (rest : List Char) : Reads rest [] rest
  | piece {gap text rest last : List Char} {lexeme : Lexeme} {pieces : List Piece}
      (between : Gap gap (text ++ rest)) (read : Lexes text lexeme rest)
      (others : Reads rest pieces last) :
      Reads (gap ++ (text ++ rest)) (⟨gap, text, lexeme⟩ :: pieces) last

/-- A text consists of pieces and a last gap. -/
structure Decomposes (text : List Char) (pieces : List Piece) (last : List Char) : Prop where
  reads : Reads text pieces last
  gap : Gap last []

def behind (place : Place) (text : List Char) : Place :=
  text.foldl Place.after place

def tokensOf (place : Place) : List Piece → List Token
  | [] => []
  | piece :: others =>
      ⟨piece.lexeme, behind place piece.gap, piece.text.length⟩ ::
        tokensOf (behind (behind place piece.gap) piece.text) others

theorem behind_append (place : Place) (text more : List Char) :
    behind place (text ++ more) = behind (behind place text) more :=
  List.foldl_append

theorem behind_cons (place : Place) (character : Char) (text : List Char) :
    behind place (character :: text) = behind (place.after character) text :=
  rfl

theorem offset_after (place : Place) (character : Char) :
    (place.after character).offset = place.offset + 1 := by
  unfold Place.after
  split_ifs <;> rfl

theorem offset_behind (place : Place) (text : List Char) :
    (behind place text).offset = place.offset + text.length := by
  induction text generalizing place with
  | nil => rfl
  | cons character text ih =>
      rw [behind_cons, ih, offset_after, List.length_cons]
      omega

/-- Pieces of one text that stand for the same tokens are the same. -/
theorem Reads.unique {text last rest : List Char} {pieces others : List Piece} {place : Place}
    (left : Reads text pieces last) (right : Reads text others rest)
    (same : tokensOf place pieces = tokensOf place others) : pieces = others ∧ last = rest := by
  induction left generalizing others place with
  | done first =>
      cases right with
      | done => exact ⟨rfl, rfl⟩
      | piece => cases same
  | @piece gap text following last lexeme pieces between read later ih =>
      generalize whole : gap ++ (text ++ following) = source at right
      cases right with
      | done => cases same
      | @piece otherGap otherText otherRest _ otherLexeme otherPieces _ _ otherLater =>
          obtain ⟨first, more⟩ := List.cons.inj same
          rw [Token.mk.injEq] at first
          obtain ⟨sameLexeme, samePlace, sameLength⟩ := first
          -- A gap ends where its lexeme begins, so the two gaps are equally long.
          have gaps : gap.length = otherGap.length := by
            have offsets := congrArg Place.offset samePlace
            rw [offset_behind, offset_behind] at offsets
            exact Nat.add_left_cancel offsets
          obtain ⟨sameGap, behindGap⟩ := List.append_inj whole gaps
          obtain ⟨sameText, sameRest⟩ := List.append_inj behindGap sameLength
          dsimp only at sameLexeme sameGap sameText more
          subst sameGap sameText sameRest sameLexeme
          obtain ⟨rfl, rfl⟩ := ih otherLater more
          exact ⟨rfl, rfl⟩

open Scanner (isGap isDelimiter startsName continuesName)

section Classes

variable {character : Char}

theorem separates_iff : Separates character ↔ isGap character = true := by
  simp only [Separates, isGap, Bool.or_eq_true, beq_iff_eq]

theorem delimits_iff : Delimits character ↔ isDelimiter character = true := by
  simp only [Delimits, separates_iff, isDelimiter, Bool.or_eq_true, List.contains_iff_mem]
  rfl

theorem begins_iff : Begins character ↔ startsName character = true := by
  simp only [Begins, startsName, Bool.or_eq_true, List.contains_iff_mem]
  rfl

theorem continues_iff : Continues character ↔ continuesName character = true := by
  simp only [Continues, begins_iff, startsName, continuesName, Text.isAlphanumeric,
    Bool.or_eq_true]
  exact or_right_comm

end Classes

theorem mem_of_contains {spans : Text.Spans} {code : Nat} (inside : spans.contains code = true) :
    ∃ span ∈ spans, span.1 ≤ code ∧ code ≤ span.2 := by
  induction spans with
  | nil => cases inside
  | cons span others ih =>
      obtain ⟨first, last⟩ := span
      rw [Text.Spans.contains] at inside
      split_ifs at inside with beyond
      rw [Bool.or_eq_true, decide_eq_true_eq] at inside
      rcases inside with here | later
      · exact ⟨(first, last), List.mem_cons_self, Nat.not_lt.mp beyond, here⟩
      · obtain ⟨other, member, bounds⟩ := ih later
        exact ⟨other, List.mem_cons_of_mem _ member, bounds⟩

/-- The code points of characters that cannot begin a name: delimiters and digits. -/
def closedCodes : List Nat :=
  [0x9, 0xA, 0xB, 0xC, 0xD, 0x1C, 0x1D, 0x1E, 0x1F, 0x20, 0x85, 0xA0, 0x1680, 0x2000, 0x2001,
    0x2002, 0x2003, 0x2004, 0x2005, 0x2006, 0x2007, 0x2008, 0x2009, 0x200A, 0x2028, 0x2029,
    0x202F, 0x205F, 0x3000, 0x2C, 0x28, 0x29, 0x5B, 0x5D, 0x22, 0x3B, 0x30, 0x31, 0x32, 0x33,
    0x34, 0x35, 0x36, 0x37, 0x38, 0x39]

theorem blank_closed {character : Char} (blank : Text.isBlank character = true) :
    character.toNat ∈ closedCodes := by
  obtain ⟨span, member, lower, upper⟩ := mem_of_contains blank
  simp only [Text.blankSpans, List.mem_cons, List.not_mem_nil, or_false] at member
  simp only [closedCodes, List.mem_cons, List.not_mem_nil, or_false]
  rcases member with rfl | rfl | rfl | rfl | rfl | rfl | rfl | rfl | rfl | rfl <;>
    dsimp only at lower upper <;> omega

theorem delimiter_closed {character : Char} (delimiter : isDelimiter character = true) :
    character.toNat ∈ closedCodes := by
  simp only [isDelimiter, isGap, Bool.or_eq_true, beq_iff_eq, List.contains_eq_mem,
    decide_eq_true_eq, List.mem_cons, List.not_mem_nil, or_false] at delimiter
  rcases delimiter with (blank | rfl) | rfl | rfl | rfl | rfl | rfl | rfl
  · exact blank_closed blank
  all_goals decide

theorem digit_closed {character : Char} (digit : character.isDigit = true) :
    character.toNat ∈ closedCodes := by
  simp only [Char.isDigit, Bool.and_eq_true, decide_eq_true_eq] at digit
  have lower : 48 ≤ character.toNat := digit.1
  have upper : character.toNat ≤ 57 := digit.2
  simp only [closedCodes, List.mem_cons, List.not_mem_nil, or_false]
  omega

theorem starts_name_open {character : Char} (starts : startsName character = true) :
    character.toNat ∉ closedCodes := by
  have letters : closedCodes.all (fun code => !Text.letterSpans.contains code) = true := by
    decide +kernel
  have symbols : Scanner.symbols.all (fun symbol => !closedCodes.contains symbol.toNat) = true := by
    decide +kernel
  intro member
  simp only [startsName, Bool.or_eq_true, List.contains_eq_mem, decide_eq_true_eq] at starts
  rcases starts with letter | symbol
  · have none := List.all_eq_true.mp letters _ member
    rw [Bool.not_eq_true'] at none
    exact absurd letter (ne_true_of_eq_false none)
  · have none := List.all_eq_true.mp symbols _ symbol
    rw [Bool.not_eq_true', List.contains_eq_mem, decide_eq_false_iff_not] at none
    exact none member

theorem starts_name_solid {character : Char} (starts : startsName character = true) :
    isDelimiter character = false ∧ character.isDigit = false := by
  have apart := starts_name_open starts
  constructor
  · exact eq_false_of_ne_true fun delimiter => apart (delimiter_closed delimiter)
  · exact eq_false_of_ne_true fun digit => apart (digit_closed digit)

theorem exists_run (holds : Char → Bool) (text : List Char) :
    ∃ run rest, text = run ++ rest ∧ (∀ character ∈ run, holds character = true) ∧
      EndsAt (holds · = false) rest := by
  induction text with
  | nil => exact ⟨[], [], rfl, nofun, nofun⟩
  | cons character text ih =>
      by_cases here : holds character = true
      · obtain ⟨run, rest, rfl, all, ends⟩ := ih
        exact ⟨character :: run, rest, rfl, List.forall_mem_cons.mpr ⟨here, all⟩, ends⟩
      · refine ⟨[], character :: text, rfl, nofun, ?_⟩
        intro next first
        cases first
        exact eq_false_of_ne_true here

theorem exists_gap (text : List Char) :
    ∃ gap rest, text = gap ++ rest ∧ Gap gap rest ∧
      ∀ next ∈ rest.head?, isGap next = false ∧ next ≠ ';' := by
  induction size : text.length using Nat.strongRecOn generalizing text with
  | ind size ih =>
      cases text with
      | nil => exact ⟨[], [], rfl, .nil _, nofun⟩
      | cons character text =>
          rw [List.length_cons] at size
          by_cases blank : isGap character = true
          · obtain ⟨gap, rest, rfl, isGap, solid⟩ := ih text.length (by omega) text rfl
            exact ⟨character :: gap, rest, rfl, .blank (separates_iff.mpr blank) isGap, solid⟩
          by_cases comment : character = ';'
          · obtain ⟨line, others, rfl, inLine, ends⟩ := exists_run (· != '\n') text
            rw [List.length_append] at size
            obtain ⟨gap, rest, rfl, isGap, solid⟩ := ih others.length (by omega) others rfl
            refine ⟨';' :: line ++ gap, rest, ?_, .comment ?_ ?_ isGap, solid⟩
            · rw [comment, List.append_assoc, List.cons_append]
            · exact fun other member => bne_iff_ne.mp (inLine other member)
            · exact fun next first => bne_eq_false_iff_eq.mp (ends next first)
          · refine ⟨[], character :: text, rfl, .nil _, ?_⟩
            intro next first
            cases first
            exact ⟨eq_false_of_ne_true blank, comment⟩

theorem Gap.append {text more rest : List Char} (first : Gap text (more ++ rest))
    (second : Gap more rest) : Gap (text ++ more) rest := by
  generalize following : more ++ rest = whole at first
  induction first with
  | nil => exact second
  | blank blank _ ih => exact .blank blank (ih following)
  | @comment line text whole inLine ends _ ih =>
      rw [List.append_assoc]
      refine .comment inLine ?_ (ih following)
      rw [List.append_assoc, following]
      exact ends

theorem mem_escapes {behind stands : Char} :
    (behind, stands) ∈ escapes ↔ Scanner.escape? behind = some stands := by
  constructor
  · intro known
    simp only [escapes, List.mem_cons, Prod.mk.injEq, List.not_mem_nil, or_false] at known
    rcases known with ⟨rfl, rfl⟩ | ⟨rfl, rfl⟩ | ⟨rfl, rfl⟩ | ⟨rfl, rfl⟩ | ⟨rfl, rfl⟩ <;> rfl
  · intro known
    unfold Scanner.escape? at known
    split at known <;> cases known <;> decide

/-- Behind a quote, a text goes on as the inside of a string until it ends, or comes to a
quote or to a backslash that escapes nothing. -/
theorem exists_inside (text : List Char) :
    ∃ written meant rest, text = written ++ rest ∧ Inside written meant ∧
      (rest = [] ∨ (∃ more, rest = '"' :: more) ∨
        ∃ more, rest = '\\' :: more ∧ ∀ next ∈ more.head?, Scanner.escape? next = none) := by
  induction size : text.length using Nat.strongRecOn generalizing text with
  | ind size ih =>
      cases text with
      | nil => exact ⟨[], [], [], rfl, .nil, .inl rfl⟩
      | cons character text =>
          rw [List.length_cons] at size
          by_cases quote : character = '"'
          · exact ⟨[], [], character :: text, rfl, .nil, .inr (.inl ⟨text, by rw [quote]⟩)⟩
          by_cases backslash : character = '\\'
          · cases text with
            | nil => exact ⟨[], [], _, rfl, .nil, .inr (.inr ⟨[], by rw [backslash], nofun⟩)⟩
            | cons behind text =>
                rw [List.length_cons] at size
                cases known : Scanner.escape? behind with
                | none =>
                    refine ⟨[], [], _, rfl, .nil, .inr (.inr ⟨_, by rw [backslash], ?_⟩)⟩
                    intro next first
                    cases first
                    exact known
                | some stands =>
                    obtain ⟨written, meant, rest, rfl, inside, stops⟩ :=
                      ih text.length (by omega) text rfl
                    refine ⟨'\\' :: behind :: written, stands :: meant, rest, ?_,
                      .escape (mem_escapes.mpr known) inside, stops⟩
                    rw [backslash, List.cons_append, List.cons_append]
          · obtain ⟨written, meant, rest, rfl, inside, stops⟩ := ih text.length (by omega) text rfl
            exact ⟨character :: written, character :: meant, rest, rfl,
              .plain quote backslash inside, stops⟩

end Lexical

end Lisplet
