import Lisplet.Syntax.Scanner
import Mathlib.Tactic.Common

/-!
# Spelling lexemes

A text spells a row of lexemes if a scanner between two tokens reads just them from
it, whatever comes next. Names and numbers need something that ends them to come
next; brackets and strings end by themselves. Spellings can be put behind each
other, so the text of a whole program is spelled piece by piece.

In the other direction, every name that a scanner reads spells itself, and every
integer is one that can be written.
-/

namespace Lisplet

namespace Scanner

def run (scanner : Scanner) (text : List Char) : Except ScanError (List Token) := do
  let after ← text.foldlM step scanner
  after.finish

theorem run_cons {scanner after : Scanner} {character : Char}
    (stepped : scanner.step character = .ok after) (rest : List Char) :
    scanner.run (character :: rest) = after.run rest := by
  unfold run
  rw [List.foldlM_cons, stepped]
  rfl

/-- What may come behind a name or a number: nothing, or a character that ends it. -/
def Separated : List Char → Prop
  | [] => True
  | character :: _ => isDelimiter character = true ∧ continuesName character = false

/-- Anything may come behind what ends by itself. -/
def Anything : List Char → Prop :=
  fun _ => True

/-- Between tokens, and with something fitting to follow, the text is read as the
lexemes. -/
def Spells (follows : List Char → Prop) (text : List Char) (lexemes : List Lexeme) : Prop :=
  ∀ (scanner : Scanner) (rest : List Char), scanner.mode = .gap → follows rest →
    ∃ (after : Scanner) (tokens : List Token), after.mode = .gap ∧
      after.tokens = tokens.reverse ++ scanner.tokens ∧ tokens.map Token.lexeme = lexemes ∧
      scanner.run (text ++ rest) = after.run rest

namespace Spells

variable {follows next : List Char → Prop} {text more : List Char}
  {lexemes others : List Lexeme}

theorem nil (follows : List Char → Prop) : Spells follows [] [] :=
  fun scanner _ gap _ => ⟨scanner, [], gap, rfl, rfl, rfl⟩

theorem append (first : Spells follows text lexemes) (second : Spells next more others)
    (fits : ∀ rest, next rest → follows (more ++ rest)) :
    Spells next (text ++ more) (lexemes ++ others) := by
  intro scanner rest gap fitting
  obtain ⟨middle, early, middleGap, middleTokens, earlyLexemes, begun⟩ :=
    first scanner (more ++ rest) gap (fits rest fitting)
  obtain ⟨after, late, afterGap, afterTokens, lateLexemes, ended⟩ :=
    second middle rest middleGap fitting
  refine ⟨after, early ++ late, afterGap, ?_, ?_, ?_⟩
  · rw [afterTokens, middleTokens, List.reverse_append, List.append_assoc]
  · rw [List.map_append, earlyLexemes, lateLexemes]
  · rw [List.append_assoc, begun, ended]

theorem before (first : Spells Anything text lexemes) (second : Spells next more others) :
    Spells next (text ++ more) (lexemes ++ others) :=
  first.append second fun _ _ => trivial

theorem weaken (spells : Spells follows text lexemes) (fits : ∀ rest, next rest → follows rest) :
    Spells next text lexemes :=
  fun scanner rest gap fitting => spells scanner rest gap (fits rest fitting)

/-- A text that spells lexemes is scanned into tokens that carry them. -/
theorem tokenize {source : String} (spells : Spells Separated source.toList lexemes) :
    ∃ tokens, Lisplet.tokenize source = .ok tokens ∧ tokens.map Token.lexeme = lexemes := by
  obtain ⟨after, tokens, gap, read, carried, ran⟩ := spells {} [] rfl trivial
  refine ⟨tokens, ?_, carried⟩
  rw [List.append_nil] at ran
  change Scanner.run {} source.toList = .ok tokens
  have finished : after.finish = .ok after.tokens.reverse := by
    simp only [finish, gap, settle]
    rfl
  rw [ran]
  change after.finish = .ok tokens
  rw [finished, read, List.append_nil, List.reverse_reverse]

end Spells

theorem spells_gap {character : Char} (gap : isGap character = true) :
    Spells Anything [character] [] := by
  intro scanner rest between _
  refine ⟨scanner.enter character .gap, [], rfl, rfl, rfl, run_cons ?_ rest⟩
  simp only [step, between, start, gap, if_true]
  rfl

theorem spells_bracket {character : Char} {lexeme : Lexeme}
    (bracket : bracket? character = some lexeme) (solid : isGap character = false)
    (noComment : character ≠ ';') : Spells Anything [character] [lexeme] := by
  intro scanner rest between _
  refine ⟨{ scanner.enter character .gap with
      tokens := ⟨lexeme, scanner.place, 1⟩ :: scanner.tokens },
    [⟨lexeme, scanner.place, 1⟩], rfl, rfl, rfl, run_cons ?_ rest⟩
  simp only [step, between, start, solid, if_neg noComment, bracket]
  rfl

theorem run_settled {scanner settled : Scanner} {rest : List Char}
    (inside : (∃ start text, scanner.mode = .name start text) ∨
      ∃ start text, scanner.mode = .number start text)
    (done : scanner.settle = .ok settled) (gap : settled.mode = .gap)
    (separated : Separated rest) : scanner.run rest = settled.run rest := by
  have again : settled.settle = .ok settled := by
    simp only [settle, gap]
    rfl
  cases rest with
  | nil =>
      change scanner.finish = settled.finish
      rcases inside with ⟨start, text, mode⟩ | ⟨start, text, mode⟩ <;>
        simp only [finish, mode, gap, done, again]
  | cons character rest =>
      -- Behind the token the scanner is between tokens and looks at the same character.
      have same : scanner.step character = settled.step character := by
        rcases inside with ⟨start, text, mode⟩ | ⟨start, text, mode⟩
        · simp only [step, mode, gap, separated.2, done]
          rfl
        · simp only [step, mode, gap, separated.1, done]
          rfl
      unfold run
      rw [List.foldlM_cons, List.foldlM_cons, same]

/-- Characters with which a scanner between tokens begins a name. -/
def opensName (character : Char) : Bool :=
  !isDelimiter character && !character.isDigit && startsName character

theorem bracket_none_of_solid {character : Char} (solid : isDelimiter character = false) :
    bracket? character = none := by
  unfold bracket?
  split
  next => exact absurd solid (by decide)
  next => exact absurd solid (by decide)
  next => exact absurd solid (by decide)
  next => exact absurd solid (by decide)
  next => rfl

theorem start_solid {scanner : Scanner} {character : Char}
    (solid : isDelimiter character = false) :
    scanner.start character =
      if character.isDigit then .ok (scanner.enter character (.number scanner.place [character]))
      else if startsName character then
        .ok (scanner.enter character (.name scanner.place [character]))
      else .error (.invalidCharacter character scanner.place) := by
  have parts := solid
  simp only [isDelimiter, Bool.or_eq_false_iff, List.contains_eq_mem, decide_eq_false_iff_not,
    List.mem_cons, List.not_mem_nil, or_false, not_or] at parts
  obtain ⟨noGap, -, -, -, -, noQuote, noComment⟩ := parts
  simp only [start, noGap, if_neg noComment, bracket_none_of_solid solid, if_neg noQuote]
  rfl

def NameText : List Char → Prop
  | [] => False
  | first :: rest => opensName first = true ∧ ∀ character ∈ rest, continuesName character = true

theorem spells_settled {scanner inside : Scanner} {token : Token} {text rest : List Char}
    (ran : scanner.run (text ++ rest) = inside.run rest) (kept : inside.tokens = scanner.tokens)
    (mode : (∃ start text, inside.mode = .name start text) ∨
      ∃ start text, inside.mode = .number start text)
    (done : inside.settle = .ok { inside with mode := .gap, tokens := token :: inside.tokens })
    (separated : Separated rest) :
    ∃ (after : Scanner) (tokens : List Token), after.mode = .gap ∧
      after.tokens = tokens.reverse ++ scanner.tokens ∧
      tokens.map Token.lexeme = [token.lexeme] ∧ scanner.run (text ++ rest) = after.run rest := by
  refine ⟨{ inside with mode := .gap, tokens := token :: inside.tokens }, [token], rfl, ?_, rfl,
    ran.trans (run_settled mode done rfl separated)⟩
  rw [kept]
  rfl

theorem run_inside {kind : Place → List Char → ScanMode} {stays : Char → Bool}
    (stepped : ∀ (scanner : Scanner) begin read character, scanner.mode = kind begin read →
      stays character = true →
        scanner.step character = .ok (scanner.enter character (kind begin (character :: read))))
    {scanner : Scanner} {begin : Place} {read text : List Char}
    (mode : scanner.mode = kind begin read) (all : ∀ character ∈ text, stays character = true) :
    ∃ inside : Scanner, inside.mode = kind begin (text.reverse ++ read) ∧
      inside.tokens = scanner.tokens ∧
      ∀ rest, scanner.run (text ++ rest) = inside.run rest := by
  induction text generalizing scanner read with
  | nil => exact ⟨scanner, mode, rfl, fun _ => rfl⟩
  | cons character text ih =>
      obtain ⟨here, later⟩ := List.forall_mem_cons.mp all
      obtain ⟨inside, insideMode, tokens, ran⟩ :=
        @ih (scanner.enter character (kind begin (character :: read))) (character :: read) rfl later
      refine ⟨inside, ?_, tokens, fun rest => ?_⟩
      · rw [insideMode, List.reverse_cons, List.append_assoc]
        rfl
      · rw [List.cons_append, run_cons (stepped scanner begin read character mode here), ran]

theorem step_name (scanner : Scanner) (begin : Place) (read : List Char) (character : Char)
    (mode : scanner.mode = .name begin read) (continues : continuesName character = true) :
    scanner.step character = .ok (scanner.enter character (.name begin (character :: read))) := by
  simp only [step, mode, continues, if_true]
  rfl

theorem step_number (scanner : Scanner) (begin : Place) (read : List Char) (character : Char)
    (mode : scanner.mode = .number begin read) (solid : (!isDelimiter character) = true) :
    scanner.step character = .ok (scanner.enter character (.number begin (character :: read))) := by
  rw [Bool.not_eq_true'] at solid
  simp only [step, mode, solid]
  rfl

theorem spells_name {text : List Char} (isName : NameText text) :
    Spells Separated text [nameLexeme (String.ofList text)] := by
  intro scanner rest gap separated
  cases text with
  | nil => exact isName.elim
  | cons character text =>
      obtain ⟨opens, continues⟩ := isName
      simp only [opensName, Bool.and_eq_true, Bool.not_eq_true'] at opens
      obtain ⟨⟨solid, noDigit⟩, starts⟩ := opens
      have begun : scanner.step character =
          .ok (scanner.enter character (.name scanner.place [character])) := by
        simp only [step, gap, start_solid solid, noDigit, starts]
        rfl
      obtain ⟨inside, mode, tokens, ran⟩ :=
        @run_inside .name continuesName step_name
          (scanner.enter character (.name scanner.place [character])) _ [character] text rfl
          continues
      have settled : inside.settle = .ok { inside with
          mode := .gap
          tokens := ⟨nameLexeme (String.ofList (character :: text)), scanner.place,
            (text.reverse ++ [character]).length⟩ :: inside.tokens } := by
        simp only [settle, mode, List.reverse_append, List.reverse_reverse]
        rfl
      have whole : scanner.run (character :: text ++ rest) = inside.run rest := by
        rw [List.cons_append, run_cons begun, ran]
      exact spells_settled whole tokens (.inl ⟨_, _, mode⟩) settled separated

theorem start_number {scanner : Scanner} {character : Char} (gap : scanner.mode = .gap)
    (digit : character.isDigit = true) (solid : isDelimiter character = false) :
    scanner.step character =
      .ok (scanner.enter character (.number scanner.place [character])) := by
  simp only [step, gap, start_solid solid, digit]
  rfl

theorem run_number {scanner : Scanner} {character : Char} {text : List Char}
    (gap : scanner.mode = .gap) (digit : character.isDigit = true)
    (solid : ∀ other ∈ character :: text, isDelimiter other = false) :
    ∃ inside : Scanner, inside.mode = .number scanner.place (character :: text).reverse ∧
      inside.tokens = scanner.tokens ∧
      ∀ rest, scanner.run (character :: text ++ rest) = inside.run rest := by
  obtain ⟨here, later⟩ := List.forall_mem_cons.mp solid
  obtain ⟨inside, mode, tokens, ran⟩ :=
    @run_inside .number (fun other => !isDelimiter other) step_number
      (scanner.enter character (.number scanner.place [character])) _ [character] text rfl
      fun other member => by simp only [later other member, Bool.not_false]
  refine ⟨inside, ?_, tokens, fun rest => ?_⟩
  · rw [mode, List.reverse_cons]
  · rw [List.cons_append, run_cons (start_number gap digit here), ran]

theorem spells_number {character : Char} {text : List Char} {value : Number}
    (digit : character.isDigit = true)
    (solid : ∀ other ∈ character :: text, isDelimiter other = false)
    (valued : ∀ begin, number (character :: text) begin = .ok value) :
    Spells Separated (character :: text) [.number value] := by
  intro scanner rest gap separated
  obtain ⟨inside, mode, tokens, ran⟩ := run_number gap digit solid
  have settled : inside.settle = .ok { inside with
      mode := .gap
      tokens := ⟨.number value, scanner.place, (character :: text).reverse.length⟩ ::
        inside.tokens } := by
    simp only [settle, mode, List.reverse_reverse, valued]
    rfl
  exact spells_settled (ran rest) tokens (.inr ⟨_, _, mode⟩) settled separated

theorem run_escape {scanner : Scanner} {begin : Place} {read : List Char} {written meant : Char}
    (mode : scanner.mode = .string begin read) (escapes : escape? written = some meant) :
    ∃ after : Scanner, after.mode = .string begin (meant :: read) ∧
      after.tokens = scanner.tokens ∧
      ∀ rest, scanner.run ('\\' :: written :: rest) = after.run rest := by
  refine ⟨((scanner.enter '\\' (.escape begin read)).enter written
    (.string begin (meant :: read))), rfl, rfl, fun rest => ?_⟩
  have behind : scanner.step '\\' = .ok (scanner.enter '\\' (.escape begin read)) := by
    simp only [step, mode]
    rfl
  rw [run_cons behind]
  refine run_cons ?_ rest
  simp only [step, enter, escapes]
  rfl

theorem run_escaped_character {scanner : Scanner} {begin : Place} {read : List Char}
    (mode : scanner.mode = .string begin read) (character : Char) :
    ∃ after : Scanner, after.mode = .string begin (character :: read) ∧
      after.tokens = scanner.tokens ∧
      ∀ rest, scanner.run (Atom.escapeCharacter character ++ rest) = after.run rest := by
  unfold Atom.escapeCharacter
  split_ifs with backslash quote newline
  · subst backslash
    exact run_escape mode rfl
  · subst quote
    exact run_escape mode rfl
  · subst newline
    exact run_escape mode rfl
  · refine ⟨scanner.enter character (.string begin (character :: read)), rfl, rfl,
      fun rest => run_cons ?_ rest⟩
    simp only [step, mode, if_neg quote, if_neg backslash]
    rfl

theorem run_escaped {scanner : Scanner} {begin : Place} {read : List Char}
    (mode : scanner.mode = .string begin read) (text rest : List Char) :
    ∃ after : Scanner, after.mode = .string begin (text.reverse ++ read) ∧
      after.tokens = scanner.tokens ∧
      scanner.run (text.flatMap Atom.escapeCharacter ++ rest) = after.run rest := by
  induction text generalizing scanner read with
  | nil => exact ⟨scanner, mode, rfl, rfl⟩
  | cons character text ih =>
      obtain ⟨middle, middleMode, middleTokens, begun⟩ := run_escaped_character mode character
      obtain ⟨after, afterMode, afterTokens, ended⟩ := ih middleMode
      refine ⟨after, ?_, afterTokens.trans middleTokens, ?_⟩
      · rw [afterMode, List.reverse_cons, List.append_assoc]
        rfl
      · rw [List.flatMap_cons, List.append_assoc, begun, ended]

theorem spells_string (text : String) :
    Spells Anything (Atom.stringLiteral text).toList [.string text] := by
  intro scanner rest gap _
  have opened : scanner.step '"' = .ok (scanner.enter '"' (.string scanner.place [])) := by
    simp only [step, gap]
    rfl
  obtain ⟨inside, mode, tokens, read⟩ :=
    @run_escaped (scanner.enter '"' (.string scanner.place [])) scanner.place [] rfl text.toList
      ('"' :: rest)
  refine ⟨{ inside.enter '"' .gap with
      tokens := ⟨.string text, scanner.place, inside.place.offset + 1 - scanner.place.offset⟩ ::
        inside.tokens }, [_], rfl, by rw [tokens]; rfl, rfl, ?_⟩
  have closed : inside.step '"' = .ok { inside.enter '"' .gap with
      tokens := ⟨.string text, scanner.place, inside.place.offset + 1 - scanner.place.offset⟩ ::
        inside.tokens } := by
    simp only [step, mode, List.append_nil, List.reverse_reverse, String.ofList_toList]
    rfl
  rw [← run_cons closed rest, ← read]
  rw [Atom.stringLiteral, String.toList_ofList, List.cons_append, List.cons_append,
    run_cons opened, List.append_assoc]
  rfl

/-- A name as a program can write it. The words for truth and nothing are none. -/
structure IsName (name : String) : Prop where
  text : NameText name.toList
  noKeyword : nameLexeme name = .name name

/-- A number as a program can write it, but for floats. -/
def IsNumeral : Number → Prop
  | .int value => 0 ≤ value ∧ value.natAbs < Nat.pow 10 Number.digitLimit
  | .float _ => True
  | .nan _ => False

def IsReadable : Lexeme → Prop
  | .name name => IsName name
  | .number value => IsNumeral value
  | _ => True

theorem digits_value_lt {digits : List Char} (all : digits.all Char.isDigit = true) :
    Decimal.digitsValue digits < Nat.pow 10 digits.length := by
  -- The value is folded from the left, so the bound is for any digits read before.
  suffices bound : ∀ total, digits.foldl
      (fun total digit => total * 10 + (digit.toNat - '0'.toNat)) total <
        (total + 1) * Nat.pow 10 digits.length by
    simpa [Decimal.digitsValue] using bound 0
  induction digits with
  | nil =>
      intro total
      simp
  | cons digit digits ih =>
      intro total
      rw [List.all_cons, Bool.and_eq_true] at all
      have small : digit.toNat - '0'.toNat < 10 := by
        have range := all.1
        simp only [Char.isDigit, Bool.and_eq_true, decide_eq_true_eq] at range
        have upper : digit.toNat ≤ 57 := range.2
        have zero : '0'.toNat = 48 := rfl
        omega
      have later := ih all.2 (total * 10 + (digit.toNat - '0'.toNat))
      have longer : Nat.pow 10 (digit :: digits).length = 10 * Nat.pow 10 digits.length :=
        Nat.mul_comm _ 10
      rw [List.foldl_cons, longer, ← Nat.mul_assoc]
      refine Nat.lt_of_lt_of_le later ?_
      exact Nat.mul_le_mul_right _ (by omega)

theorem digits_value_lt_of_length {digits : List Char} {limit : Nat}
    (all : digits.all Char.isDigit = true) (short : digits.length ≤ limit) :
    Decimal.digitsValue digits < Nat.pow 10 limit :=
  Nat.lt_of_lt_of_le (digits_value_lt all) (Nat.pow_le_pow_right (by decide) short)

theorem number_is_numeral {text : List Char} {begin : Place} {value : Number}
    (valued : number text begin = .ok value) : IsNumeral value := by
  unfold number at valued
  dsimp only at valued
  split at valued
  · split_ifs at valued with digits long
    · cases valued
      simp only [isDigits, Bool.not_eq_true', Bool.not_eq_false, Bool.and_eq_true] at digits
      refine ⟨Int.natCast_nonneg _, ?_⟩
      rw [Int.natAbs_natCast]
      exact digits_value_lt_of_length digits.2 (Nat.le_of_not_lt long)
  · split_ifs at valued
    cases valued
    trivial

theorem name_lexeme_readable {text : String} (isName : NameText text.toList) :
    IsReadable (nameLexeme text) := by
  by_cases word : nameLexeme text = .name text
  · rw [word]
    exact ⟨isName, word⟩
  · unfold nameLexeme at word ⊢
    split_ifs at word ⊢ <;> trivial

theorem NameText.extend {text : List Char} (isName : NameText text.reverse) {character : Char}
    (continues : continuesName character = true) : NameText (character :: text).reverse := by
  rw [List.reverse_cons]
  cases shape : text.reverse with
  | nil =>
      rw [shape] at isName
      exact isName.elim
  | cons first rest =>
      rw [shape] at isName
      refine ⟨isName.1, fun other member => ?_⟩
      rcases List.mem_append.mp member with early | last
      · exact isName.2 other early
      · rw [List.mem_singleton.mp last]
        exact continues

theorem solid_of_no_bracket {character : Char} (noGap : isGap character = false)
    (noComment : character ≠ ';') (noBracket : bracket? character = none)
    (noQuote : character ≠ '"') : isDelimiter character = false := by
  have apart (bracket : Char) (lexeme : Lexeme) (is : bracket? bracket = some lexeme) :
      character ≠ bracket := by
    rintro rfl
    cases noBracket.symm.trans is
  simp only [isDelimiter, noGap, Bool.false_or, List.contains_eq_mem, decide_eq_false_iff_not,
    List.mem_cons, List.not_mem_nil, or_false, not_or]
  exact ⟨apart '(' _ rfl, apart ')' _ rfl, apart '[' _ rfl, apart ']' _ rfl, noQuote, noComment⟩

/-- If the scanner is inside a name, then what it has read of it is one. -/
def InName (scanner : Scanner) : Prop :=
  ∀ begin text, scanner.mode = .name begin text → NameText text.reverse

/-- What a step can do: it adds tokens, which are readable, and it stays inside of
names only over what belongs to them. -/
structure Advances (before after : Scanner) : Prop where
  tokens : ∃ added, after.tokens = added ++ before.tokens ∧
    (before.InName → ∀ token ∈ added, IsReadable token.lexeme)
  inName : before.InName → after.InName

theorem Advances.trans {first second third : Scanner} (early : first.Advances second)
    (late : second.Advances third) : first.Advances third := by
  obtain ⟨begun, beginTokens, beginReadable⟩ := early.tokens
  obtain ⟨ended, endTokens, endReadable⟩ := late.tokens
  refine ⟨⟨ended ++ begun, by rw [endTokens, beginTokens, List.append_assoc], ?_⟩,
    fun inName => late.inName (early.inName inName)⟩
  intro inName token member
  rcases List.mem_append.mp member with later | earlier
  · exact endReadable (early.inName inName) token later
  · exact beginReadable inName token earlier

theorem Advances.enter {scanner : Scanner} (character : Char) {mode : ScanMode}
    (fits : scanner.InName → ∀ begin text, mode = .name begin text → NameText text.reverse) :
    scanner.Advances (scanner.enter character mode) :=
  ⟨⟨[], rfl, fun _ => nofun⟩, fits⟩

theorem Advances.deliver {scanner after : Scanner} {token : Token} (gap : after.mode = .gap)
    (delivered : after.tokens = token :: scanner.tokens)
    (readable : scanner.InName → IsReadable token.lexeme) : scanner.Advances after := by
  refine ⟨⟨[token], delivered, ?_⟩, ?_⟩
  · intro inName other member
    rw [List.mem_singleton.mp member]
    exact readable inName
  · intro _ begin text mode
    cases gap.symm.trans mode

theorem settle_advances {scanner settled : Scanner} (done : scanner.settle = .ok settled) :
    scanner.Advances settled := by
  unfold settle at done
  split at done
  next begin text mode =>
    cases valued : number text.reverse begin with
    | error error =>
        rw [valued] at done
        cases done
    | ok value =>
        rw [valued] at done
        cases done
        exact .deliver rfl rfl fun _ => number_is_numeral valued
  next begin text mode =>
    cases done
    refine .deliver rfl rfl fun inName => name_lexeme_readable ?_
    rw [String.toList_ofList]
    exact inName begin text mode
  next =>
    cases done
    exact ⟨⟨[], rfl, fun _ => nofun⟩, fun inName => inName⟩

theorem start_advances {scanner after : Scanner} {character : Char}
    (started : scanner.start character = .ok after) : scanner.Advances after := by
  unfold start at started
  split at started
  next =>
    cases started
    exact .enter character fun _ => nofun
  next noGap =>
    split at started
    next =>
      cases started
      exact .enter character fun _ => nofun
    next noComment =>
      split at started
      next lexeme bracket =>
        cases started
        refine .deliver rfl rfl fun _ => ?_
        unfold bracket? at bracket
        split at bracket <;> cases bracket <;> trivial
      next noBracket =>
        split_ifs at started with quote digit starts
        · cases started
          exact .enter character fun _ => nofun
        · cases started
          exact .enter character fun _ => nofun
        · cases started
          -- All other ways to begin are ruled out by now, so this is a name.
          have solid := solid_of_no_bracket (eq_false_of_ne_true noGap) noComment noBracket quote
          refine .enter character ?_
          rintro - begin text same
          cases same
          refine ⟨?_, by simp⟩
          simp [opensName, solid, digit, starts]

theorem settle_start_advances {scanner after : Scanner} {character : Char}
    (moved : (scanner.settle >>= fun settled => settled.start character) = .ok after) :
    ∃ settled, scanner.settle = .ok settled ∧ settled.Advances after := by
  cases done : scanner.settle with
  | error error =>
      rw [done] at moved
      cases moved
  | ok settled =>
      rw [done] at moved
      exact ⟨settled, rfl, start_advances moved⟩

theorem step_advances {scanner after : Scanner} {character : Char}
    (stepped : scanner.step character = .ok after) : scanner.Advances after := by
  unfold step at stepped
  split at stepped
  next => exact start_advances stepped
  next =>
    cases stepped
    refine .enter character fun _ => ?_
    split_ifs <;> exact nofun
  next =>
    split_ifs at stepped <;> cases stepped
    · exact .deliver rfl rfl fun _ => trivial
    · exact .enter character fun _ => nofun
    · exact .enter character fun _ => nofun
  next =>
    split at stepped <;> cases stepped
    exact .enter character fun _ => nofun
  next =>
    split_ifs at stepped
    · obtain ⟨settled, done, advances⟩ := settle_start_advances stepped
      exact (settle_advances done).trans advances
    · cases stepped
      exact .enter character fun _ => nofun
  next begin text mode =>
    split_ifs at stepped with continues
    · cases stepped
      refine .enter character ?_
      rintro inName _ _ same
      cases same
      exact (inName begin text mode).extend continues
    · obtain ⟨settled, done, advances⟩ := settle_start_advances stepped
      exact (settle_advances done).trans advances

theorem run_adds {scanner : Scanner} {text : List Char} {tokens : List Token}
    (ran : scanner.run text = .ok tokens) :
    ∃ added, tokens = scanner.tokens.reverse ++ added ∧
      (scanner.InName → ∀ token ∈ added, IsReadable token.lexeme) := by
  induction text generalizing scanner with
  | nil =>
      change scanner.finish = .ok tokens at ran
      have finished : (scanner.settle >>= fun settled => pure settled.tokens.reverse) =
          .ok tokens := by
        unfold finish at ran
        split at ran
        · cases ran
        · cases ran
        · exact ran
      cases done : scanner.settle with
      | error error =>
          rw [done] at finished
          cases finished
      | ok settled =>
          rw [done] at finished
          cases finished
          obtain ⟨added, tokens, readable⟩ := (settle_advances done).tokens
          refine ⟨added.reverse, by rw [tokens, List.reverse_append], ?_⟩
          exact fun inName token member => readable inName token (List.mem_reverse.mp member)
  | cons character text ih =>
      cases stepped : scanner.step character with
      | error error =>
          unfold run at ran
          rw [List.foldlM_cons, stepped] at ran
          cases ran
      | ok after =>
          rw [run_cons stepped] at ran
          have advances := step_advances stepped
          obtain ⟨added, grown, readable⟩ := advances.tokens
          obtain ⟨more, rfl, moreReadable⟩ := ih ran
          refine ⟨added.reverse ++ more, ?_, ?_⟩
          · rw [grown, List.reverse_append, List.append_assoc]
          · intro inName token member
            rcases List.mem_append.mp member with early | late
            · exact readable inName token (List.mem_reverse.mp early)
            · exact moreReadable (advances.inName inName) token late

end Scanner

theorem tokenize_readable {source : String} {tokens : List Token}
    (read : tokenize source = .ok tokens) :
    ∀ token ∈ tokens, Scanner.IsReadable token.lexeme := by
  obtain ⟨added, rfl, readable⟩ := @Scanner.run_adds {} source.toList tokens read
  exact readable nofun

/-- A name that the scanner reads from its own text, and nothing else. -/
def ReadsAsName (name : String) : Prop :=
  ∃ place length, tokenize name = .ok [⟨.name name, place, length⟩]

theorem reads_as_name_iff {name : String} : ReadsAsName name ↔ Scanner.IsName name := by
  constructor
  · rintro ⟨place, length, read⟩
    exact tokenize_readable read _ (List.mem_singleton.mpr rfl)
  · rintro ⟨text, noKeyword⟩
    have spells := Scanner.spells_name text
    rw [String.ofList_toList, noKeyword] at spells
    obtain ⟨tokens, read, carried⟩ := spells.tokenize
    obtain ⟨token, rfl, lexeme⟩ := List.map_eq_singleton_iff.mp carried
    refine ⟨token.place, token.length, ?_⟩
    rw [read, ← lexeme]

end Lisplet
