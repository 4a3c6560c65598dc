import Lisplet.Proofs.Numerals
import Lisplet.Proofs.Relocation
import Lisplet.Proofs.RoundTrip

/-!
# Sources one below the other

Two sources that each spell a program spell both programs when a line feed is put
between them: whatever the first ends with, a comment, a name or a number, ends there.
The forms of the second only stand further down.
-/

namespace Lisplet

/-- The same place in a source that lies below others. -/
def Place.lowered (lines offset : Nat) (place : Place) : Place :=
  ⟨place.offset + offset, place.line + lines, place.column⟩

theorem Place.after_lowered (lines offset : Nat) (place : Place) (character : Char) :
    (place.lowered lines offset).after character =
      (place.after character).lowered lines offset := by
  unfold after lowered
  split_ifs
  · rw [Nat.add_right_comm, Nat.add_right_comm place.line]
  · rw [Nat.add_right_comm]

def Token.lowered (lines offset : Nat) (token : Token) : Token :=
  { token with place := token.place.lowered lines offset }

def Location.lowered (lines : Nat) (location : Location) : Location :=
  { location with line := location.line + lines }

def ScanMode.lowered (lines offset : Nat) : ScanMode → ScanMode
  | .gap => .gap
  | .comment => .comment
  | .string start text => .string (start.lowered lines offset) text
  | .escape start text => .escape (start.lowered lines offset) text
  | .number start text => .number (start.lowered lines offset) text
  | .name start text => .name (start.lowered lines offset) text

namespace Scanner

def lowered (lines offset : Nat) (earlier : List Token) (scanner : Scanner) : Scanner where
  place := scanner.place.lowered lines offset
  mode := scanner.mode.lowered lines offset
  tokens := scanner.tokens.map (Token.lowered lines offset) ++ earlier

section Lowered

variable {lines offset : Nat} {earlier : List Token} {scanner after : Scanner}

theorem enter_lowered (character : Char) (mode : ScanMode) :
    (scanner.lowered lines offset earlier).enter character (mode.lowered lines offset) =
      (scanner.enter character mode).lowered lines offset earlier := by
  unfold enter lowered
  dsimp only
  rw [Place.after_lowered]

theorem deliver_lowered (character : Char) (token : Token) :
    { (scanner.lowered lines offset earlier).enter character .gap with
      tokens := token.lowered lines offset :: (scanner.lowered lines offset earlier).tokens } =
      ({ scanner.enter character .gap with tokens := token :: scanner.tokens } : Scanner).lowered
        lines offset earlier := by
  unfold enter lowered
  dsimp only
  rw [Place.after_lowered]
  rfl

theorem settle_lowered (settled : scanner.settle = .ok after) :
    (scanner.lowered lines offset earlier).settle = .ok (after.lowered lines offset earlier) := by
  obtain ⟨place, mode, tokens⟩ := scanner
  cases mode with
  | gap | comment | string | escape =>
      cases settled
      rfl
  | name start text =>
      cases settled
      rfl
  | number start text =>
      unfold settle at settled
      dsimp only at settled
      cases valued : number text.reverse start with
      | error error =>
          rw [valued] at settled
          cases settled
      | ok value =>
          rw [valued] at settled
          cases settled
          unfold settle lowered ScanMode.lowered
          dsimp only
          rw [number_anywhere valued]
          rfl

theorem start_lowered {character : Char} (started : scanner.start character = .ok after) :
    (scanner.lowered lines offset earlier).start character =
      .ok (after.lowered lines offset earlier) := by
  unfold start at started ⊢
  cases known : bracket? character with
  | some lexeme =>
      rw [known] at started
      dsimp only at started ⊢
      split_ifs at started ⊢ with gap comment
      · cases started
        exact congrArg Except.ok (enter_lowered character .gap)
      · cases started
        exact congrArg Except.ok (enter_lowered character .comment)
      · cases started
        exact congrArg Except.ok (deliver_lowered character ⟨lexeme, scanner.place, 1⟩)
  | none =>
      rw [known] at started
      dsimp only at started ⊢
      split_ifs at started ⊢ with gap comment quote digit letter
      · cases started
        exact congrArg Except.ok (enter_lowered character .gap)
      · cases started
        exact congrArg Except.ok (enter_lowered character .comment)
      · cases started
        exact congrArg Except.ok (enter_lowered character (.string scanner.place []))
      · cases started
        exact congrArg Except.ok (enter_lowered character (.number scanner.place [character]))
      · cases started
        exact congrArg Except.ok (enter_lowered character (.name scanner.place [character]))

theorem settle_start_lowered {character : Char}
    (stepped : (do let settled ← scanner.settle; settled.start character) = .ok after) :
    (do
      let settled ← (scanner.lowered lines offset earlier).settle
      settled.start character) = .ok (after.lowered lines offset earlier) := by
  cases settled : scanner.settle with
  | error error =>
      rw [settled] at stepped
      cases stepped
  | ok rested =>
      rw [settled] at stepped
      rw [settle_lowered settled]
      exact start_lowered stepped

theorem step_lowered {character : Char} (stepped : scanner.step character = .ok after) :
    (scanner.lowered lines offset earlier).step character =
      .ok (after.lowered lines offset earlier) := by
  obtain ⟨place, mode, tokens⟩ := scanner
  cases mode with
  | gap => exact start_lowered stepped
  | comment =>
      cases stepped
      refine congrArg Except.ok ?_
      rw [← enter_lowered]
      split_ifs <;> rfl
  | string start text =>
      unfold step at stepped ⊢
      dsimp only [lowered, ScanMode.lowered] at stepped ⊢
      split_ifs at stepped ⊢ with quote backslash
      · cases stepped
        have length : place.offset + offset + 1 - (start.offset + offset) =
            place.offset + 1 - start.offset := by omega
        dsimp only [Place.lowered]
        rw [length]
        exact congrArg Except.ok (@deliver_lowered lines offset earlier
          ⟨place, .string start text, tokens⟩ character ⟨_, start, _⟩)
      · cases stepped
        exact congrArg Except.ok
          (@enter_lowered _ _ _ ⟨place, _, tokens⟩ character (.escape start text))
      · cases stepped
        exact congrArg Except.ok
          (@enter_lowered _ _ _ ⟨place, _, tokens⟩ character (.string start (character :: text)))
  | escape start text =>
      unfold step at stepped ⊢
      dsimp only [lowered, ScanMode.lowered] at stepped ⊢
      cases known : escape? character with
      | none =>
          rw [known] at stepped
          cases stepped
      | some escaped =>
          rw [known] at stepped
          cases stepped
          exact congrArg Except.ok
            (@enter_lowered _ _ _ ⟨place, _, tokens⟩ character (.string start (escaped :: text)))
  | number start text =>
      unfold step at stepped ⊢
      dsimp only [lowered, ScanMode.lowered] at stepped ⊢
      split_ifs at stepped ⊢ with ends
      · exact settle_start_lowered stepped
      · cases stepped
        exact congrArg Except.ok
          (@enter_lowered _ _ _ ⟨place, _, tokens⟩ character (.number start (character :: text)))
  | name start text =>
      unfold step at stepped ⊢
      dsimp only [lowered, ScanMode.lowered] at stepped ⊢
      split_ifs at stepped ⊢ with goesOn
      · cases stepped
        exact congrArg Except.ok
          (@enter_lowered _ _ _ ⟨place, _, tokens⟩ character (.name start (character :: text)))
      · exact settle_start_lowered stepped

theorem finish_lowered {tokens : List Token} (finished : scanner.finish = .ok tokens) :
    (scanner.lowered lines offset earlier).finish =
      .ok (earlier.reverse ++ tokens.map (Token.lowered lines offset)) := by
  have rested (settles : (do let settled ← scanner.settle; return settled.tokens.reverse) =
      (.ok tokens : Except ScanError (List Token))) :
      (do
        let settled ← (scanner.lowered lines offset earlier).settle
        return settled.tokens.reverse) =
        (.ok (earlier.reverse ++ tokens.map (Token.lowered lines offset)) :
          Except ScanError (List Token)) := by
    cases settled : scanner.settle with
    | error error =>
        rw [settled] at settles
        cases settles
    | ok after =>
        rw [settled] at settles
        cases settles
        rw [settle_lowered settled]
        refine congrArg Except.ok ?_
        rw [lowered, List.reverse_append, List.map_reverse]
  obtain ⟨place, mode, read⟩ := scanner
  cases mode with
  | string | escape => cases finished
  | gap | comment | number | name => exact rested finished

theorem run_lowered {text : List Char} {tokens : List Token} (ran : scanner.run text = .ok tokens) :
    (scanner.lowered lines offset earlier).run text =
      .ok (earlier.reverse ++ tokens.map (Token.lowered lines offset)) := by
  induction text generalizing scanner with
  | nil => exact finish_lowered ran
  | cons character text ih =>
      cases stepped : scanner.step character with
      | error error =>
          unfold run at ran
          rw [List.foldlM_cons, stepped] at ran
          cases ran
      | ok next =>
          rw [run_cons stepped] at ran
          rw [run_cons (step_lowered stepped)]
          exact ih ran

end Lowered

/-- Behind a text that may end, a line feed brings the scanner to the state in which it
starts, but for what it has read. -/
theorem step_line_feed {scanner : Scanner} {tokens : List Token}
    (finished : scanner.finish = .ok tokens) :
    scanner.step '\n' = .ok (({} : Scanner).lowered scanner.place.line (scanner.place.offset + 1)
      tokens.reverse) := by
  obtain ⟨place, mode, read⟩ := scanner
  have behind : place.after '\n' = ({} : Place).lowered place.line (place.offset + 1) := by
    simp only [Place.after, Place.lowered, if_pos, Nat.zero_add, Nat.add_comm 1]
  have entered (tokens : List Token) (mode : ScanMode) :
      Scanner.enter ⟨place, mode, tokens⟩ '\n' .gap =
        ({} : Scanner).lowered place.line (place.offset + 1) tokens := by
    unfold enter lowered
    dsimp only
    rw [behind]
    rfl
  -- A text may not end inside a string; in all other modes a line feed ends the token.
  cases mode with
  | string | escape => cases finished
  | gap | comment =>
      cases finished
      rw [List.reverse_reverse]
      exact congrArg Except.ok (entered read _)
  | name start text =>
      cases finished
      rw [List.reverse_reverse]
      exact congrArg Except.ok (entered _ .gap)
  | number start text =>
      unfold finish settle at finished
      dsimp only at finished
      unfold step settle
      dsimp only
      cases valued : number text.reverse start with
      | error error =>
          rw [valued] at finished
          cases finished
      | ok value =>
          rw [valued] at finished
          cases finished
          rw [List.reverse_reverse]
          exact congrArg Except.ok (entered _ .gap)

theorem run_append {scanner : Scanner} {text : List Char} {tokens : List Token}
    (ran : scanner.run text = .ok tokens) (rest : List Char) :
    ∃ after : Scanner, after.finish = .ok tokens ∧
      scanner.run (text ++ rest) = after.run rest := by
  induction text generalizing scanner with
  | nil => exact ⟨scanner, ran, rfl⟩
  | cons character text ih =>
      cases stepped : scanner.step character with
      | error error =>
          unfold run at ran
          rw [List.foldlM_cons, stepped] at ran
          cases ran
      | ok next =>
          rw [run_cons stepped] at ran
          obtain ⟨after, finished, same⟩ := ih ran
          refine ⟨after, finished, ?_⟩
          rw [List.cons_append, run_cons stepped, same]

end Scanner

/-- The tokens of two sources, one below the other. -/
theorem tokenize_joined {first second : String} {tokens others : List Token}
    (scanned : tokenize first = .ok tokens) (scannedOther : tokenize second = .ok others) :
    ∃ lines offset, tokenize (first ++ "\n" ++ second) =
      .ok (tokens ++ others.map (Token.lowered lines offset)) := by
  obtain ⟨after, finished, joined⟩ :=
    @Scanner.run_append {} _ _ scanned ('\n' :: second.toList)
  refine ⟨after.place.line, after.place.offset + 1, ?_⟩
  have characters : (first ++ "\n" ++ second).toList = first.toList ++ '\n' :: second.toList := by
    rw [String.toList_append, String.toList_append, List.append_assoc]
    rfl
  change Scanner.run {} (first ++ "\n" ++ second).toList = _
  rw [characters, joined, Scanner.run_cons (Scanner.step_line_feed finished)]
  have read := @Scanner.run_lowered after.place.line (after.place.offset + 1) tokens.reverse {} _ _
    scannedOther
  rw [List.reverse_reverse] at read
  exact read

def Mark.lowered (lines offset : Nat) (mark : Mark) : Mark :=
  { mark with place := mark.place.lowered lines offset }

def Label.lowered (lines offset : Nat) (label : Label) : Label :=
  { label with mark := label.mark.lowered lines offset }

namespace Phrase

mutual

def lowered (lines offset : Nat) : Phrase → Phrase
  | .reference label => .reference (label.lowered lines offset)
  | .number mark value => .number (mark.lowered lines offset) value
  | .string mark text => .string (mark.lowered lines offset) text
  | .boolean mark value => .boolean (mark.lowered lines offset) value
  | .nil mark => .nil (mark.lowered lines offset)
  | .define opening keyword name value closing =>
      .define (opening.lowered lines offset) (keyword.lowered lines offset)
        (name.lowered lines offset) (value.lowered lines offset) (closing.lowered lines offset)
  | .procedure opening keyword name bracket parameters bracketEnd body closing =>
      .procedure (opening.lowered lines offset) (keyword.lowered lines offset)
        (name.lowered lines offset) (bracket.lowered lines offset)
        (parameters.map (Label.lowered lines offset)) (bracketEnd.lowered lines offset)
        (loweredAll lines offset body) (closing.lowered lines offset)
  | .branch opening keyword test consequent alternate closing =>
      .branch (opening.lowered lines offset) (keyword.lowered lines offset)
        (test.lowered lines offset) (consequent.lowered lines offset)
        (alternate.lowered lines offset) (closing.lowered lines offset)
  | .quote opening keyword form closing =>
      .quote (opening.lowered lines offset) (keyword.lowered lines offset)
        (form.lowered lines offset) (closing.lowered lines offset)
  | .lambda opening keyword bracket parameters bracketEnd body closing =>
      .lambda (opening.lowered lines offset) (keyword.lowered lines offset)
        (bracket.lowered lines offset) (parameters.map (Label.lowered lines offset))
        (bracketEnd.lowered lines offset) (loweredAll lines offset body)
        (closing.lowered lines offset)
  | .apply opening callee arguments closing =>
      .apply (opening.lowered lines offset) (callee.lowered lines offset)
        (loweredAll lines offset arguments) (closing.lowered lines offset)

def loweredAll (lines offset : Nat) : List Phrase → List Phrase
  | [] => []
  | phrase :: rest => phrase.lowered lines offset :: loweredAll lines offset rest

end

section Lowered

variable (lines offset : Nat)

theorem mark_token_lowered (mark : Mark) (lexeme : Lexeme) :
    (mark.lowered lines offset).token lexeme = (mark.token lexeme).lowered lines offset :=
  rfl

theorem label_tokens_lowered (labels : List Label) :
    (labels.map (Label.lowered lines offset)).map Label.token =
      (labels.map Label.token).map (Token.lowered lines offset) := by
  rw [List.map_map, List.map_map]
  rfl

theorem label_texts_lowered (labels : List Label) :
    (labels.map (Label.lowered lines offset)).map Label.text = labels.map Label.text := by
  rw [List.map_map]
  rfl

theorem listed_lowered (bracket : Mark) (parameters : List Label) (bracketEnd : Mark) :
    listed (bracket.lowered lines offset) (parameters.map (Label.lowered lines offset))
        (bracketEnd.lowered lines offset) =
      (listed bracket parameters bracketEnd).map (Token.lowered lines offset) := by
  simp only [listed, label_tokens_lowered, mark_token_lowered, List.map_cons, List.map_append,
    List.map_nil]

mutual

theorem tokens_lowered (phrase : Phrase) :
    (phrase.lowered lines offset).tokens = phrase.tokens.map (Token.lowered lines offset) := by
  cases phrase with
  | reference | number | string | boolean | nil => rfl
  | define opening keyword name value closing =>
      simp only [lowered, tokens, mark_token_lowered, tokens_lowered value, List.map_cons,
        List.map_append, List.map_nil]
      rfl
  | procedure opening keyword name bracket parameters bracketEnd body closing =>
      simp only [lowered, tokens, mark_token_lowered, listed_lowered, tokens_of_lowered body,
        List.map_cons, List.map_append, List.map_nil]
      rfl
  | branch opening keyword test consequent alternate closing =>
      simp only [lowered, tokens, mark_token_lowered, tokens_lowered test,
        tokens_lowered consequent, tokens_lowered alternate, List.map_cons, List.map_append, List.map_nil]
  | quote opening keyword form closing =>
      simp only [lowered, tokens, mark_token_lowered, tokens_lowered form, List.map_cons,
        List.map_append, List.map_nil]
  | lambda opening keyword bracket parameters bracketEnd body closing =>
      simp only [lowered, tokens, mark_token_lowered, listed_lowered, tokens_of_lowered body,
        List.map_cons, List.map_append, List.map_nil]
  | apply opening callee arguments closing =>
      simp only [lowered, tokens, mark_token_lowered, tokens_lowered callee,
        tokens_of_lowered arguments, List.map_cons, List.map_append, List.map_nil]

theorem tokens_of_lowered (phrases : List Phrase) :
    tokensOf (loweredAll lines offset phrases) =
      (tokensOf phrases).map (Token.lowered lines offset) := by
  cases phrases with
  | nil => rfl
  | cons phrase rest =>
      simp only [loweredAll, tokensOf, tokens_lowered phrase, tokens_of_lowered rest,
        List.map_append]

end

mutual

theorem tree_lowered (phrase : Phrase) :
    (phrase.lowered lines offset).tree = phrase.tree.relocate (Location.lowered lines) := by
  cases phrase with
  | reference | number | string | boolean | nil => rfl
  | define opening keyword name value closing =>
      simp only [lowered, tree, Expr.relocate, tree_lowered value]
      rfl
  | procedure opening keyword name bracket parameters bracketEnd body closing =>
      simp only [lowered, tree, Expr.relocate, label_texts_lowered, trees_of_lowered body]
      rfl
  | branch opening keyword test consequent alternate closing =>
      simp only [lowered, tree, Expr.relocate, tree_lowered test, tree_lowered consequent,
        tree_lowered alternate]
      rfl
  | quote opening keyword form closing =>
      simp only [lowered, tree, Expr.relocate, tree_lowered form]
      rfl
  | lambda opening keyword bracket parameters bracketEnd body closing =>
      simp only [lowered, tree, Expr.relocate, label_texts_lowered, trees_of_lowered body]
      rfl
  | apply opening callee arguments closing =>
      simp only [lowered, tree, Expr.relocate, tree_lowered callee, trees_of_lowered arguments]
      rfl

theorem trees_of_lowered (phrases : List Phrase) :
    treesOf (loweredAll lines offset phrases) =
      Expr.relocateAll (Location.lowered lines) (treesOf phrases) := by
  cases phrases with
  | nil => rfl
  | cons phrase rest =>
      simp only [loweredAll, treesOf, Expr.relocateAll, tree_lowered phrase, trees_of_lowered rest]

end

mutual

theorem proper_lowered (phrase : Phrase) (proper : phrase.Proper) :
    (phrase.lowered lines offset).Proper := by
  cases phrase with
  | reference | number | string | boolean | nil => trivial
  | define opening keyword name value closing => exact proper_lowered value proper
  | procedure opening keyword name bracket parameters bracketEnd body closing =>
      exact all_proper_lowered body proper
  | branch opening keyword test consequent alternate closing =>
      exact ⟨proper_lowered test proper.1, proper_lowered consequent proper.2.1,
        proper_lowered alternate proper.2.2⟩
  | quote opening keyword form closing => exact proper_lowered form proper
  | lambda opening keyword bracket parameters bracketEnd body closing =>
      exact all_proper_lowered body proper
  | apply opening callee arguments closing =>
      obtain ⟨ordinary, calleeProper, argumentsProper⟩ := proper
      refine ⟨?_, proper_lowered callee calleeProper, all_proper_lowered arguments argumentsProper⟩
      intro first begins
      rw [tokens_lowered, List.head?_map] at begins
      obtain ⟨original, there, rfl⟩ := Option.map_eq_some_iff.mp begins
      exact ordinary original there

theorem all_proper_lowered (phrases : List Phrase) (proper : AllProper phrases) :
    AllProper (loweredAll lines offset phrases) := by
  cases phrases with
  | nil => trivial
  | cons phrase rest =>
      exact ⟨proper_lowered phrase proper.1, all_proper_lowered rest proper.2⟩

end

end Lowered

end Phrase

theorem peak_lowered (lines offset level : Nat) (tokens : List Token) :
    peak level (tokens.map (Token.lowered lines offset)) = peak level tokens := by
  induction tokens generalizing level with
  | nil => rfl
  | cons token rest ih =>
      have same : (token.lowered lines offset).levelBehind level = token.levelBehind level := rfl
      rw [List.map_cons, peak, peak, same, ih]

section Derivations

variable {tokens others : List Token} {phrases next : List Phrase} {trees found : List Expr}

theorem Derives.append (first : Derives tokens phrases trees) (second : Derives others next found) :
    Derives (tokens ++ others) (phrases ++ next) (trees ++ found) := by
  refine ⟨Phrase.all_proper_append first.proper second.proper, ?_, ?_⟩
  · rw [Phrase.tokens_of_append, first.spelled, second.spelled]
  · rw [Phrase.trees_of_append, first.trees, second.trees]

theorem Derives.lowered (lines offset : Nat) (derives : Derives tokens phrases trees) :
    Derives (tokens.map (Token.lowered lines offset)) (Phrase.loweredAll lines offset phrases)
      (Expr.relocateAll (Location.lowered lines) trees) := by
  refine ⟨Phrase.all_proper_lowered lines offset phrases derives.proper, ?_, ?_⟩
  · rw [Phrase.tokens_of_lowered, derives.spelled]
  · rw [Phrase.trees_of_lowered, derives.trees]

end Derivations

/-- Two sources with a line feed between them spell the two programs in a row; the
second stands some lines further down. -/
theorem parse_joined {first second : String} {program next : List Expr}
    (parsed : parse first = .ok program) (parsedNext : parse second = .ok next) :
    ∃ lines, parse (first ++ "\n" ++ second) =
      .ok (program ++ Expr.relocateAll (Location.lowered lines) next) := by
  obtain ⟨tokens, scanned, accepted⟩ := tokens_of_parse parsed
  obtain ⟨others, scannedNext, acceptedNext⟩ := tokens_of_parse parsedNext
  obtain ⟨lines, offset, joined⟩ := tokenize_joined scanned scannedNext
  obtain ⟨phrases, derives⟩ := derives_of_parse_tokens accepted
  obtain ⟨nextPhrases, derivesNext⟩ := derives_of_parse_tokens acceptedNext
  have derivesLowered := derivesNext.lowered lines offset
  have fits := Expr.nesting_of_le.mp (nesting_of_parse_tokens accepted)
  have fitsLowered := nesting_of_parse_tokens acceptedNext
  rw [← derivesNext.peak, ← peak_lowered lines offset, derivesLowered.peak] at fitsLowered
  have fitsBoth := Expr.nesting_of_le.mpr
    (List.forall_mem_append.mpr ⟨fits, Expr.nesting_of_le.mp fitsLowered⟩)
  refine ⟨lines, (parse_of_tokens joined).trans ?_⟩
  rw [parse_tokens_of_derives (derives.append derivesLowered), if_pos fitsBoth]
  rfl

end Lisplet
