import Lisplet.Proofs.Nesting
import Lisplet.Proofs.Parsing

/-!
# Parsing within a limit on nesting

The number of forms a parser has open is told by the parentheses it has read. So the limit
stops it only where the tokens open more forms at once than the limit allows, and the tokens
of a tree open as many at once as the tree is deep.
-/

namespace Lisplet

/-- How many forms are open behind a token. -/
def Token.levelBehind (level : Nat) (token : Token) : Nat :=
  match token.lexeme with
  | .openParen => level + 1
  | .closeParen => level - 1
  | _ => level

/-- The largest number of forms that are open at once. -/
def peak (level : Nat) : List Token → Nat
  | [] => level
  | token :: rest => max level (peak (token.levelBehind level) rest)

theorem le_peak (level : Nat) (tokens : List Token) : level ≤ peak level tokens := by
  cases tokens with
  | nil => exact Nat.le_refl level
  | cons token rest => exact Nat.le_max_left _ _

theorem peak_open (level : Nat) (opening : Mark) (rest : List Token) :
    peak level (opening.token .openParen :: rest) = peak (level + 1) rest := by
  have rises := le_peak (level + 1) rest
  change max level (peak (level + 1) rest) = _
  omega

theorem peak_close (level : Nat) (closing : Mark) (rest : List Token) :
    peak (level + 1) (closing.token .closeParen :: rest) = max (level + 1) (peak level rest) := rfl

theorem peak_word {token : Token} (opensNot : token.lexeme ≠ .openParen)
    (closesNot : token.lexeme ≠ .closeParen) (level : Nat) (rest : List Token) :
    peak level (token :: rest) = peak level rest := by
  have stays : token.levelBehind level = level := by
    unfold Token.levelBehind
    split
    next opens => exact absurd opens opensNot
    next closes => exact absurd closes closesNot
    next => rfl
  rw [peak, stays, Nat.max_eq_right (le_peak level rest)]

theorem peak_label (label : Label) (level : Nat) (rest : List Token) :
    peak level (label.token :: rest) = peak level rest :=
  peak_word (by simp [Label.token, Mark.token]) (by simp [Label.token, Mark.token]) level rest

theorem peak_name (mark : Mark) (name : String) (level : Nat) (rest : List Token) :
    peak level (mark.token (.name name) :: rest) = peak level rest :=
  peak_label ⟨mark, name⟩ level rest

namespace Phrase

theorem peak_listed (bracket : Mark) (parameters : List Label) (bracketEnd : Mark) (level : Nat)
    (rest : List Token) :
    peak level (listed bracket parameters bracketEnd ++ rest) = peak level rest := by
  have names : peak level (parameters.map Label.token ++
      (bracketEnd.token .closeBracket :: rest)) = peak level rest := by
    induction parameters with
    | nil => exact peak_word (by simp [Mark.token]) (by simp [Mark.token]) level rest
    | cons label parameters ih => rw [List.map_cons, List.cons_append, peak_label, ih]
  rw [listed, List.append_assoc, List.cons_append, List.singleton_append,
    peak_word (by simp [Mark.token]) (by simp [Mark.token]), names]

theorem peak_enclosed {level levels : Nat} (opening closing : Mark) {behind rest : List Token}
    (rises : peak (level + 1) behind =
      max (level + 1 + levels) (peak (level + 1) (closing.token .closeParen :: rest))) :
    peak level (opening.token .openParen :: behind) =
      max (level + (levels + 1)) (peak level rest) := by
  rw [peak_open, rises, peak_close]
  omega

mutual

/-- The tokens of a phrase rise by the nesting of its tree. -/
theorem peak_tokens (phrase : Phrase) (level : Nat) (rest : List Token) :
    peak level (phrase.tokens ++ rest) = max (level + phrase.tree.nesting) (peak level rest) := by
  cases phrase with
  | define opening keyword name value closing =>
      have inside := peak_tokens value (level + 1) (closing.token .closeParen :: rest)
      rw [← peak_label name, ← peak_name keyword "define"] at inside
      simpa [tokens, tree, Expr.nesting] using peak_enclosed opening closing inside
  | procedure opening keyword name bracket parameters bracketEnd body closing =>
      have inside := peak_tokens_of body (level + 1) (closing.token .closeParen :: rest)
      rw [← peak_listed bracket parameters bracketEnd, ← peak_label name,
        ← peak_name keyword "define"] at inside
      simpa [tokens, tree, Expr.nesting] using peak_enclosed opening closing inside
  | branch opening keyword test consequent alternate closing =>
      have inside : peak (level + 1) (test.tokens ++ (consequent.tokens ++ (alternate.tokens ++
          (closing.token .closeParen :: rest)))) =
          max (level + 1 + max test.tree.nesting (max consequent.tree.nesting
            alternate.tree.nesting)) (peak (level + 1) (closing.token .closeParen :: rest)) := by
        rw [peak_tokens test, peak_tokens consequent, peak_tokens alternate]
        omega
      rw [← peak_name keyword "if"] at inside
      simpa [tokens, tree, Expr.nesting] using peak_enclosed opening closing inside
  | quote opening keyword form closing =>
      have inside := peak_tokens form (level + 1) (closing.token .closeParen :: rest)
      rw [← peak_name keyword "quote"] at inside
      simpa [tokens, tree, Expr.nesting] using peak_enclosed opening closing inside
  | lambda opening keyword bracket parameters bracketEnd body closing =>
      have inside := peak_tokens_of body (level + 1) (closing.token .closeParen :: rest)
      rw [← peak_listed bracket parameters bracketEnd, ← peak_name keyword "lambda"] at inside
      simpa [tokens, tree, Expr.nesting] using peak_enclosed opening closing inside
  | apply opening callee arguments closing =>
      have inside : peak (level + 1) (callee.tokens ++ (tokensOf arguments ++
          (closing.token .closeParen :: rest))) =
          max (level + 1 + max callee.tree.nesting (Expr.nestingOf (treesOf arguments)))
            (peak (level + 1) (closing.token .closeParen :: rest)) := by
        rw [peak_tokens callee, peak_tokens_of arguments]
        omega
      simpa [tokens, tree, Expr.nesting] using peak_enclosed opening closing inside
  | reference label =>
      rw [tokens, List.singleton_append, peak_label]
      simp [tree, Expr.nesting, le_peak]
  | _ =>
      rw [tokens, List.singleton_append, peak_word (by simp [Mark.token]) (by simp [Mark.token])]
      simp [tree, Expr.nesting, Datum.nesting, le_peak]

theorem peak_tokens_of (phrases : List Phrase) (level : Nat) (rest : List Token) :
    peak level (tokensOf phrases ++ rest) =
      max (level + Expr.nestingOf (treesOf phrases)) (peak level rest) := by
  cases phrases with
  | nil => simp [tokensOf, treesOf, Expr.nestingOf, le_peak]
  | cons phrase phrases =>
      rw [tokensOf, List.append_assoc, peak_tokens phrase, peak_tokens_of phrases, treesOf,
        Expr.nestingOf]
      omega

end

end Phrase

theorem Derives.peak {tokens : List Token} {phrases : List Phrase} {trees : List Expr}
    (derives : Derives tokens phrases trees) : peak 0 tokens = Expr.nestingOf trees := by
  obtain ⟨-, rfl, rfl⟩ := derives
  have whole := Phrase.peak_tokens_of phrases 0 []
  simpa [Lisplet.peak] using whole

namespace Parser

theorem deliver_open_forms (parser : Parser) (tree : Expr) :
    (parser.deliver tree).openForms = parser.pending.length := by
  obtain ⟨stage, pending, finished⟩ := parser
  cases pending <;> rfl

theorem read_form_level {parser next : Parser} {token : Token}
    (read : parser.readForm token = .ok next) :
    next.openForms = token.levelBehind parser.pending.length := by
  obtain ⟨stage, pending, finished⟩ := parser
  unfold readForm at read
  unfold Token.levelBehind
  cases spelled : token.lexeme with
  | closeParen =>
      rw [spelled] at read
      cases pending with
      | nil => cases read
      | cons form outer =>
          dsimp only at read
          cases closed : form.close with
          | error error =>
              rw [closed] at read
              cases read
          | ok tree =>
              rw [closed] at read
              cases read
              exact deliver_open_forms _ tree
  | openBracket | closeBracket =>
      rw [spelled] at read
      cases read
  | openParen =>
      rw [spelled] at read
      cases read
      rfl
  | name | number | string | boolean | nil =>
      rw [spelled] at read
      cases read
      exact deliver_open_forms _ _

/-- The parentheses that were read tell how many forms are open. -/
theorem step_level {parser next : Parser} {token : Token}
    (stepped : parser.step token = .ok next) :
    next.openForms = token.levelBehind parser.openForms := by
  obtain ⟨stage, pending, finished⟩ := parser
  unfold step at stepped
  cases stage with
  | forms => exact read_form_level stepped
  | head opening =>
      dsimp only at stepped
      split at stepped
      next form special =>
        cases stepped
        have spelled := special_form_some special
        unfold Token.levelBehind
        rw [spelled]
        cases form <;> rfl
      next => exact read_form_level stepped
  | named opening name =>
      dsimp only at stepped
      split at stepped
      next bracketed =>
        cases stepped
        unfold Token.levelBehind
        rw [bracketed]
        rfl
      next => exact read_form_level stepped
  | naming | listing | parameters =>
      dsimp only at stepped
      unfold Token.levelBehind
      split at stepped <;> cases stepped <;> simp_all [openForms, gather]

section Limit

variable {limit : Nat} {parser : Parser} {tokens : List Token}

theorem fold_within_of_ok (fits : parser.openForms ≤ limit) {last : Parser}
    (read : tokens.foldlM step parser = .ok last) :
    tokens.foldlM (stepWithin limit) parser =
      if peak parser.openForms tokens ≤ limit then .ok last else .error .tooDeep := by
  induction tokens generalizing parser with
  | nil =>
      cases read
      exact (if_pos fits).symm
  | cons token rest ih =>
      rw [List.foldlM_cons] at read ⊢
      cases stepped : parser.step token with
      | error error =>
          rw [stepped] at read
          cases read
      | ok next =>
          rw [stepped] at read
          have level := step_level stepped
          have same : peak parser.openForms (token :: rest) ≤ limit ↔
              peak next.openForms rest ≤ limit := by
            rw [peak, Nat.max_le, and_iff_right fits, level]
          simp only [stepWithin, stepped, same]
          by_cases enough : next.openForms ≤ limit
          · rw [if_pos enough]
            exact ih enough read
          · rw [if_neg enough, if_neg fun all => enough (Nat.le_trans (le_peak _ rest) all)]
            rfl

/-- Tokens that cannot be read are refused for the same reason within a limit, unless they
open more forms at once. -/
theorem fold_within_of_error (fits : parser.openForms ≤ limit) {error : ParseError}
    (failed : tokens.foldlM step parser = .error error) :
    tokens.foldlM (stepWithin limit) parser = .error (.refused error) ∨
      tokens.foldlM (stepWithin limit) parser = .error .tooDeep ∧
        limit < peak parser.openForms tokens := by
  induction tokens generalizing parser with
  | nil => cases failed
  | cons token rest ih =>
      rw [List.foldlM_cons] at failed ⊢
      cases stepped : parser.step token with
      | error cause =>
          rw [stepped] at failed
          cases failed
          simp only [stepWithin, stepped]
          exact .inl rfl
      | ok next =>
          rw [stepped] at failed
          have level := step_level stepped
          have rises : peak next.openForms rest ≤ peak parser.openForms (token :: rest) := by
            rw [peak, level]
            exact Nat.le_max_right _ _
          simp only [stepWithin, stepped]
          by_cases enough : next.openForms ≤ limit
          · rw [if_pos enough]
            exact (ih enough failed).imp_right fun deep =>
              ⟨deep.1, Nat.lt_of_lt_of_le deep.2 rises⟩
          · rw [if_neg enough]
            refine .inr ⟨rfl, ?_⟩
            exact Nat.lt_of_lt_of_le (Nat.lt_of_not_le enough)
              (Nat.le_trans (le_peak _ rest) rises)

theorem fold_of_within {last : Parser} (fits : parser.openForms ≤ limit)
    (read : tokens.foldlM (stepWithin limit) parser = .ok last) :
    tokens.foldlM step parser = .ok last := by
  cases folded : tokens.foldlM step parser with
  | error error =>
      rcases fold_within_of_error fits folded with refused | ⟨deep, -⟩
      · rw [refused] at read
        cases read
      · rw [deep] at read
        cases read
  | ok other =>
      rw [fold_within_of_ok fits folded] at read
      split at read <;> cases read
      rfl

theorem fold_start_within {last : Parser} (read : tokens.foldlM step {} = .ok last) :
    tokens.foldlM (stepWithin limit) {} =
      if peak 0 tokens ≤ limit then .ok last else .error .tooDeep :=
  fold_within_of_ok (Nat.zero_le limit) read

end Limit

end Parser

section Limit

variable {limit : Nat} {tokens : List Token} {trees : List Expr}

theorem parse_tokens_of_read (read : readTokens tokens = .ok trees) :
    parseTokens limit tokens =
      if peak 0 tokens ≤ limit then .ok trees else .error .tooDeep := by
  unfold readTokens at read
  cases folded : tokens.foldlM Parser.step {} with
  | error error =>
      rw [folded] at read
      cases read
  | ok parser =>
      rw [folded] at read
      have finished : parser.finish = .ok trees := read
      unfold parseTokens
      rw [Parser.fold_start_within folded]
      by_cases enough : peak 0 tokens ≤ limit
      · rw [if_pos enough, if_pos enough, Parser.ok_bind, finished]
        rfl
      · rw [if_neg enough, if_neg enough]
        rfl

theorem parse_tokens_of_unread {error : ParseError} (failed : readTokens tokens = .error error) :
    parseTokens limit tokens = .error (.refused error) ∨
      parseTokens limit tokens = .error .tooDeep ∧ limit < peak 0 tokens := by
  unfold readTokens at failed
  unfold parseTokens
  cases folded : tokens.foldlM Parser.step {} with
  | error cause =>
      rw [folded] at failed
      cases failed
      rcases Parser.fold_within_of_error (Nat.zero_le limit) folded with refused | ⟨deep, exceeds⟩
      · rw [refused]
        exact .inl rfl
      · rw [deep]
        exact .inr ⟨rfl, exceeds⟩
  | ok parser =>
      rw [folded] at failed
      have unfinished : parser.finish = .error error := failed
      rw [Parser.fold_start_within folded]
      by_cases enough : peak 0 tokens ≤ limit
      · rw [if_pos enough, Parser.ok_bind, unfinished]
        exact .inl rfl
      · rw [if_neg enough]
        exact .inr ⟨rfl, Nat.lt_of_not_le enough⟩

/-- Tokens that derive trees are parsed to them unless the trees nest too deep. -/
theorem parse_tokens_of_derives {phrases : List Phrase} (derives : Derives tokens phrases trees) :
    parseTokens limit tokens =
      if Expr.nestingOf trees ≤ limit then .ok trees else .error .tooDeep := by
  rw [parse_tokens_of_read (read_tokens_of_derives derives), derives.peak]

theorem read_tokens_of_parse (parsed : parseTokens limit tokens = .ok trees) :
    readTokens tokens = .ok trees := by
  cases read : readTokens tokens with
  | error error =>
      rcases parse_tokens_of_unread read with refused | ⟨deep, -⟩
      · rw [refused] at parsed
        cases parsed
      · rw [deep] at parsed
        cases parsed
  | ok others =>
      rw [parse_tokens_of_read read] at parsed
      split at parsed <;> cases parsed
      rfl

theorem read_tokens_of_refused {error : ParseError}
    (failed : parseTokens limit tokens = .error (.refused error)) :
    readTokens tokens = .error error := by
  cases read : readTokens tokens with
  | ok others =>
      rw [parse_tokens_of_read read] at failed
      split at failed <;> cases failed
  | error cause =>
      rcases parse_tokens_of_unread read with refused | ⟨deep, -⟩
      · rw [refused] at failed
        cases failed
        rfl
      · rw [deep] at failed
        cases failed

theorem derives_of_parse_tokens (parsed : parseTokens limit tokens = .ok trees) :
    ∃ phrases, Derives tokens phrases trees :=
  derives_of_read_tokens (read_tokens_of_parse parsed)

theorem nesting_of_parse_tokens (parsed : parseTokens limit tokens = .ok trees) :
    Expr.nestingOf trees ≤ limit := by
  obtain ⟨phrases, derives⟩ := derives_of_parse_tokens parsed
  rw [parse_tokens_of_derives derives] at parsed
  split at parsed
  next fits => exact fits
  next => cases parsed

end Limit

end Lisplet
