import Lisplet.Proofs.Tokenizing

/-!
# Places of tokens

The scanner counts offsets, lines and columns while it goes, inside of tokens and between
them. Said without it: a line is one more than the line feeds before an offset, and a
column is counted from behind the last of these. Every place that the scanner keeps is
exact in this sense, so the places of all tokens are, and the places of errors.
-/

namespace Lisplet

/-- The line that an offset lies in begins behind the last line feed before the offset,
or with the text. -/
structure LineBegins (text : List Char) (offset start : Nat) : Prop where
  before : start ≤ offset
  behind : start = 0 ∨ text[start - 1]? = some '\n'
  last : ∀ position, start ≤ position → position < offset → text[position]? ≠ some '\n'

namespace Place

/-- A place has the line and the column of its offset. -/
structure Exact (text : List Char) (place : Place) : Prop where
  line : place.line = 1 + (text.take place.offset).count '\n'
  column : ∃ start, LineBegins text place.offset start ∧ place.column = place.offset - start + 1

variable {text : List Char} {place : Place}

theorem exact_start (text : List Char) : Exact text {} := by
  refine ⟨by simp, 0, ⟨by simp, by simp, ?_⟩, rfl⟩
  intro position _ less
  simp at less

theorem Exact.after {character : Char} (exact : place.Exact text)
    (here : text[place.offset]? = some character) : (place.after character).Exact text := by
  obtain ⟨start, begins, column⟩ := exact.column
  have taken : text.take (place.offset + 1) = text.take place.offset ++ [character] := by
    rw [List.take_add_one, here, Option.toList_some]
  by_cases feed : character = '\n'
  · subst feed
    have moved : place.after '\n' = ⟨place.offset + 1, place.line + 1, 1⟩ := rfl
    rw [moved]
    constructor
    · simp only [taken, List.count_append, List.count_singleton_self, exact.line]
      omega
    · refine ⟨place.offset + 1, ⟨Nat.le_refl _, .inr here, ?_⟩, by simp⟩
      intro position lower upper
      simp only at upper
      omega
  · have moved : place.after character = ⟨place.offset + 1, place.line, place.column + 1⟩ :=
      if_neg feed
    rw [moved]
    constructor
    · simp [taken, exact.line, feed]
    · have bound := begins.before
      refine ⟨start, ⟨by simp only; omega, begins.behind, ?_⟩, by simp only; omega⟩
      intro position lower upper
      simp only at upper
      by_cases same : position = place.offset
      · rw [same, here]
        simpa using feed
      · exact begins.last position lower (by omega)

theorem at_drop {character : Char} {rest : List Char}
    (here : text.drop place.offset = character :: rest) :
    text[place.offset]? = some character ∧ text.drop (place.after character).offset = rest := by
  constructor
  · rw [← List.head?_drop, here, List.head?_cons]
  · rw [Lexical.offset_after, ← List.tail_drop, here, List.tail_cons]

theorem Exact.behind {portion rest : List Char} (exact : place.Exact text)
    (here : text.drop place.offset = portion ++ rest) :
    (Lexical.behind place portion).Exact text ∧
      text.drop (Lexical.behind place portion).offset = rest := by
  induction portion generalizing place with
  | nil => exact ⟨exact, here⟩
  | cons character portion ih =>
      obtain ⟨found, later⟩ := at_drop here
      rw [Lexical.behind_cons]
      exact ih (exact.after found) later

end Place

namespace Lexical

theorem Lexes.ne_nil {text rest : List Char} {lexeme : Lexeme} (lexes : Lexes text lexeme rest) :
    text ≠ [] := by
  cases lexes with
  | integer digits => exact digits.some
  | _ => simp

end Lexical

open Lexical

/-- A token stands in a text: its characters, from its place on and as many as it is long,
spell its lexeme there. -/
structure Token.Stands (text : List Char) (token : Token) : Prop where
  nonempty : 0 < token.length
  inside : token.place.offset + token.length ≤ text.length
  spells : Lexes ((text.drop token.place.offset).take token.length) token.lexeme
    (text.drop (token.place.offset + token.length))
  place : token.place.Exact text

/-- One token ends before the other begins. -/
def Token.Precedes (earlier later : Token) : Prop :=
  earlier.place.offset + earlier.length ≤ later.place.offset

section Pieces

variable {text rest last : List Char} {pieces : List Piece} {place : Place}

/-- The tokens of pieces stand where the pieces do, one behind the other. -/
theorem tokens_stand (reads : Reads rest pieces last) (exact : place.Exact text)
    (here : text.drop place.offset = rest) :
    (tokensOf place pieces).Pairwise Token.Precedes ∧
      ∀ token ∈ tokensOf place pieces, place.offset ≤ token.place.offset ∧ token.Stands text := by
  induction reads generalizing place with
  | done => exact ⟨.nil, nofun⟩
  | @piece gap written following last lexeme pieces between lexes others ih =>
      obtain ⟨begins, fromHere⟩ := exact.behind here
      obtain ⟨ends, fromThere⟩ := begins.behind fromHere
      obtain ⟨ordered, stand⟩ := ih ends fromThere
      have start := offset_behind place gap
      have stop := offset_behind (behind place gap) written
      have first : Token.Stands text ⟨lexeme, behind place gap, written.length⟩ := by
        constructor
        · exact List.length_pos_iff.mpr lexes.ne_nil
        · have length := congrArg List.length fromHere
          rw [List.length_drop, List.length_append] at length
          have positive := List.length_pos_iff.mpr lexes.ne_nil
          simp only
          omega
        · simp only
          rw [← stop, fromHere, fromThere, List.take_left]
          exact lexes
        · exact begins
      have behindFirst : ∀ token ∈ tokensOf (behind (behind place gap) written) pieces,
          Token.Precedes ⟨lexeme, behind place gap, written.length⟩ token := by
        intro token member
        have lower := (stand token member).1
        rw [stop] at lower
        exact lower
      rw [tokensOf]
      refine ⟨List.pairwise_cons.mpr ⟨behindFirst, ordered⟩, ?_⟩
      intro token member
      rcases List.mem_cons.mp member with same | later
      · rw [same]
        exact ⟨by simp only; omega, first⟩
      · obtain ⟨lower, stands⟩ := stand token later
        exact ⟨by omega, stands⟩

end Pieces

def ScanError.invalid? : ScanError → Option (Char × Place)
  | .invalidCharacter character place => some (character, place)
  | _ => none

namespace Scanner

/-- The end of a token leaves the scanner where it is, or the token may not end there. -/
def Rests (scanner : Scanner) : Except ScanError Scanner → Prop
  | .ok settled => settled.place = scanner.place
  | .error error => error.invalid? = none

/-- The scanner meets a character: it is behind it then, or it stops there. -/
def Meets (scanner : Scanner) (character : Char) : Except ScanError Scanner → Prop
  | .ok after => after.place = scanner.place.after character
  | .error error => ∀ invalid ∈ error.invalid?, invalid = (character, scanner.place)

theorem number_rests {text : List Char} {start : Place} {error : ScanError}
    (failed : number text start = .error error) : error.invalid? = none := by
  unfold number at failed
  dsimp only at failed
  split at failed <;> split_ifs at failed <;> cases failed <;> rfl

theorem settle_rests (scanner : Scanner) : scanner.Rests scanner.settle := by
  unfold settle
  split
  next start text mode =>
    cases valued : number text.reverse start with
    | ok value => rfl
    | error error => exact number_rests valued
  · rfl
  · rfl

theorem start_meets (scanner : Scanner) (character : Char) :
    scanner.Meets character (scanner.start character) := by
  unfold start
  by_cases gap : isGap character = true
  · rw [if_pos gap]
    rfl
  by_cases comment : character = ';'
  · rw [if_neg gap, if_pos comment]
    rfl
  rw [if_neg gap, if_neg comment]
  cases bracket? character with
  | some lexeme => rfl
  | none =>
      dsimp only
      split_ifs
      · rfl
      · rfl
      · rfl
      · intro invalid same
        cases same
        rfl

theorem settle_start_meets (scanner : Scanner) (character : Char) :
    scanner.Meets character (scanner.settle >>= fun settled => settled.start character) := by
  have rests := scanner.settle_rests
  cases settling : scanner.settle with
  | ok settled =>
      rw [settling] at rests
      have same : settled.place = scanner.place := rests
      have meets := settled.start_meets character
      simp only [Meets, same] at meets
      exact meets
  | error error =>
      rw [settling] at rests
      have valid : error.invalid? = none := rests
      intro invalid found
      rw [valid] at found
      cases found

theorem step_meets (scanner : Scanner) (character : Char) :
    scanner.Meets character (scanner.step character) := by
  unfold step
  split
  · exact scanner.start_meets character
  · rfl
  · split_ifs <;> rfl
  · split
    · rfl
    · exact nofun
  · split_ifs
    · exact scanner.settle_start_meets character
    · rfl
  · split_ifs
    · rfl
    · exact scanner.settle_start_meets character

theorem finish_rests {scanner : Scanner} {error : ScanError}
    (failed : scanner.finish = .error error) : error.invalid? = none := by
  unfold finish at failed
  split at failed
  · cases failed
    rfl
  · cases failed
    rfl
  · have rests := scanner.settle_rests
    cases settling : scanner.settle with
    | ok settled =>
        rw [settling] at failed
        cases failed
    | error early =>
        rw [settling] at failed rests
        cases failed
        exact rests

theorem run_invalid {text rest : List Char} {scanner : Scanner} {character : Char} {place : Place}
    (exact : scanner.place.Exact text) (here : text.drop scanner.place.offset = rest)
    (failed : scanner.run rest = .error (.invalidCharacter character place)) :
    place.Exact text ∧ text[place.offset]? = some character := by
  induction rest generalizing scanner with
  | nil => cases finish_rests failed
  | cons next rest ih =>
      obtain ⟨found, later⟩ := Place.at_drop here
      have meets := scanner.step_meets next
      cases stepped : scanner.step next with
      | ok after =>
          rw [stepped] at meets
          have moved : after.place = scanner.place.after next := meets
          rw [← moved] at later
          rw [run_cons stepped] at failed
          exact ih (moved ▸ exact.after found) later failed
      | error error =>
          rw [stepped] at meets
          rw [run_step_error stepped] at failed
          have same : (character, place) = (next, scanner.place) :=
            meets (character, place) (by rw [Except.error.inj failed]; rfl)
          cases same
          exact ⟨exact, found⟩

end Scanner

def ScanError.beginning : ScanError → String
  | .invalidCharacter .. => "Invalid character: "
  | .invalidEscape .. => "Invalid escape sequence: "
  | .unterminatedString _ => "Unterminated string literal"
  | .malformedNumber .. => "Invalid number format: "
  | .tooManyDigits _ => ""

theorem ScanError.message_begins {error : ScanError} {source : String} {diagnostic : Diagnostic}
    (told : error.diagnostic? source = some diagnostic) :
    error.beginning.toList.IsPrefix diagnostic.message.toList := by
  cases error with
  | tooManyDigits => cases told
  | unterminatedString start =>
      cases told
      exact List.prefix_rfl
  | invalidCharacter | malformedNumber =>
      cases told
      simp only [beginning, String.toList_append]
      exact List.prefix_append _ _
  | invalidEscape next offset =>
      cases told
      simp only [beginning, String.toList_append]
      exact List.prefix_append _ _

theorem ScanError.invalid_of_message {error : ScanError} {source : String}
    {diagnostic : Diagnostic} (told : error.diagnostic? source = some diagnostic)
    (reported : "Invalid character: ".toList.IsPrefix diagnostic.message.toList) :
    ∃ character place, error = .invalidCharacter character place := by
  have begins := message_begins told
  cases error with
  | invalidCharacter character place => exact ⟨character, place, rfl⟩
  | tooManyDigits => cases told
  | invalidEscape | unterminatedString | malformedNumber =>
      -- Both texts are in front of the message, so the shorter one begins the longer one.
      simp only [beginning] at begins
      have clash := List.prefix_of_prefix_length_le reported begins (by decide)
      exact absurd clash (by decide)

/-- The places of tokens are exact. Of a source that is read, every token covers at least
one character inside the source, and the characters it covers spell its lexeme there; each
token ends before the next one begins; and each has the line and the column of its offset,
whatever comes before it. If a character is reported as invalid, it stands at the position
that is reported, and the line and the column that are reported are those of that position. -/
theorem token_places_are_exact (source : String) :
    (∀ tokens, tokenize source = .ok tokens →
      tokens.Pairwise Token.Precedes ∧ ∀ token ∈ tokens, token.Stands source.toList) ∧
    (∀ error diagnostic, tokenize source = .error error →
      error.diagnostic? source = some diagnostic →
      "Invalid character: ".toList.IsPrefix diagnostic.message.toList →
        ∃ (character : Char) (place : Place), place.Exact source.toList ∧
          source.toList[place.offset]? = some character ∧
          diagnostic.position = some (Int.ofNat place.offset) ∧
          diagnostic.received = some ("Character: " ++ Text.quoted (String.singleton character) ++
            " at line " ++ toString place.line ++ ", column " ++ toString place.column)) := by
  constructor
  · intro tokens read
    rcases decomposes_or_refused source with ⟨pieces, last, decomposes⟩ | ⟨_, _, _, _, failed, -⟩
    · rw [tokenize_of_decomposes decomposes] at read
      cases read
      obtain ⟨ordered, stand⟩ := tokens_stand decomposes.reads (Place.exact_start _) rfl
      exact ⟨ordered, fun token member => (stand token member).2⟩
    · rw [failed] at read
      cases read
  · intro error diagnostic failed told reported
    obtain ⟨character, place, rfl⟩ := ScanError.invalid_of_message told reported
    have stopped : (Scanner.between {} []).run source.toList =
        .error (.invalidCharacter character place) := failed
    obtain ⟨exact, found⟩ := Scanner.run_invalid (Place.exact_start _) rfl stopped
    cases told
    exact ⟨character, place, exact, found, rfl, rfl⟩

/-- A name stands behind a string of two lines and a comment, and an invalid character in
the second line of another source. -/
theorem token_places_are_exact_behind_string :
    (∀ token ∈ [(⟨.string "a\nb", ⟨0, 1, 1⟩, 5⟩ : Token), ⟨.name "x", ⟨11, 3, 3⟩, 1⟩],
      token.Stands "\"a\nb\" ;c\n  x".toList) ∧
    ∃ place : Place, place.Exact "x\n @".toList ∧ place.offset = 3 ∧ place.line = 2 := by
  have read : tokenize "\"a\nb\" ;c\n  x" =
      .ok [⟨.string "a\nb", ⟨0, 1, 1⟩, 5⟩, ⟨.name "x", ⟨11, 3, 3⟩, 1⟩] := by rfl
  have failed : tokenize "x\n @" = .error (.invalidCharacter '@' ⟨3, 2, 2⟩) := by rfl
  obtain ⟨character, place, exact, found, position, -⟩ :=
    (token_places_are_exact "x\n @").2 _ _ failed rfl (by decide)
  have offset : place.offset = 3 := (Int.ofNat.inj (Option.some.inj position)).symm
  have line := exact.line
  rw [offset] at line
  exact ⟨((token_places_are_exact _).1 _ read).2, place, exact, offset, line⟩

end Lisplet
