import Lisplet.Proofs.Answers
import Lisplet.Proofs.LiteralPatterns

/-!
# Splitting and joining

A text is split at a separator of ordinary characters by cutting it at the leftmost place
where the separator stands, and going on behind it. Nothing is lost on the way, so joining
the pieces gives the text back.
-/

namespace Lisplet

/-- A text is cut at the leftmost place where a separator stands. -/
structure Leftmost (separator text before behind : List Char) : Prop where
  whole : text = before ++ separator ++ behind
  first : ∀ other rest, text = other ++ separator ++ rest → before.length ≤ other.length

namespace Leftmost

variable {separator text before behind : List Char}

theorem here (separator behind : List Char) :
    Leftmost separator (separator ++ behind) [] behind :=
  ⟨rfl, fun _ _ _ => Nat.zero_le _⟩

theorem later {character : Char} (other : ¬ separator <+: character :: text)
    (leftmost : Leftmost separator text before behind) :
    Leftmost separator (character :: text) (character :: before) behind := by
  constructor
  · rw [leftmost.whole]
    rfl
  · intro another rest same
    cases another with
    | nil => exact absurd ⟨rest, same.symm⟩ other
    | cons head tail =>
        cases same
        exact Nat.succ_le_succ (leftmost.first tail rest rfl)

theorem free (leftmost : Leftmost separator text before behind) (nonempty : separator ≠ []) :
    ¬ separator <:+: before := by
  rintro ⟨early, late, same⟩
  have sooner := leftmost.first early (late ++ separator ++ behind) (by
    rw [leftmost.whole, ← same]
    simp)
  have size : separator.length ≠ 0 := by simpa using nonempty
  rw [← same] at sooner
  simp only [List.length_append] at sooner
  omega

theorem unique {other rest : List Char} (leftmost : Leftmost separator text before behind)
    (also : Leftmost separator text other rest) : before = other ∧ behind = rest := by
  have size : before.length = other.length :=
    Nat.le_antisymm (leftmost.first other rest also.whole) (also.first before behind leftmost.whole)
  have same : before ++ (separator ++ behind) = other ++ (separator ++ rest) := by
    rw [← List.append_assoc, ← List.append_assoc, ← leftmost.whole, ← also.whole]
  obtain ⟨front, back⟩ := List.append_inj same size
  exact ⟨front, List.append_cancel_left back⟩

theorem of_absent {character : Char} (absent : character ∉ before) (behind : List Char) :
    Leftmost [character] (before ++ [character] ++ behind) before behind := by
  refine ⟨rfl, fun other rest same => ?_⟩
  rw [List.append_assoc, List.append_assoc, List.append_eq_append_iff] at same
  rcases same with ⟨more, rfl, -⟩ | ⟨more, rfl, next⟩
  · simp
  · -- A place further left would put the character into the text before.
    cases more with
    | nil => simp
    | cons head tail =>
        cases next
        exact absurd (by simp) absent

end Leftmost

/-- The pieces of a text that is cut at one leftmost separator after the other. -/
inductive Cuts (separator : List Char) : List Char → List (List Char) → Prop where
  | whole {text : List Char} (free : ¬ separator <:+: text) : Cuts separator text [text]
  | cut {text before behind : List Char} {pieces : List (List Char)}
      (leftmost : Leftmost separator text before behind) (rest : Cuts separator behind pieces) :
      Cuts separator text (before :: pieces)

namespace Cuts

variable {separator text : List Char} {pieces : List (List Char)}

theorem nonempty (cuts : Cuts separator text pieces) : pieces ≠ [] := by
  cases cuts <;> exact List.cons_ne_nil _ _

theorem free (cuts : Cuts separator text pieces) (characters : separator ≠ []) :
    ∀ piece ∈ pieces, ¬ separator <:+: piece := by
  induction cuts with
  | whole free => simpa using free
  | cut leftmost rest ih => exact List.forall_mem_cons.mpr ⟨leftmost.free characters, ih⟩

theorem joined (cuts : Cuts separator text pieces) : separator.intercalate pieces = text := by
  induction cuts with
  | whole free => simp
  | cut leftmost rest ih =>
      rw [List.intercalate_cons_of_ne_nil rest.nonempty, ih, leftmost.whole]

theorem unique {others : List (List Char)} (cuts : Cuts separator text pieces)
    (also : Cuts separator text others) : pieces = others := by
  induction cuts generalizing others with
  | whole free =>
      cases also with
      | whole => rfl
      | cut leftmost rest => exact absurd ⟨_, _, leftmost.whole.symm⟩ free
  | cut leftmost rest ih =>
      cases also with
      | whole free => exact absurd ⟨_, _, leftmost.whole.symm⟩ free
      | cut others also =>
          obtain ⟨rfl, rfl⟩ := leftmost.unique others
          rw [ih also]

theorem of_parts {character : Char} {parts : List (List Char)} (filled : parts ≠ [])
    (absent : ∀ part ∈ parts, character ∉ part) :
    Cuts [character] ([character].intercalate parts) parts := by
  induction parts with
  | nil => exact absurd rfl filled
  | cons part rest ih =>
      have first : character ∉ part := absent part (.head _)
      cases rest with
      | nil =>
          rw [List.intercalate_singleton]
          exact .whole fun within => first (within.subset (.head _))
      | cons next others =>
          rw [List.intercalate_cons_cons]
          exact .cut (.of_absent first _)
            (ih (List.cons_ne_nil _ _) fun later member => absent later (.tail _ member))

end Cuts

section Splitting

open PatternReader.PatternState (sequenceOf)

variable {separator : List Char} (nonempty : separator ≠ [])

include nonempty

/-- The search finds the leftmost separator, if there is one. -/
theorem search_literals (mustAdvance : Bool) (position : Nat) (previous : Option Char)
    (ahead : Nat) (text : List Char) :
    (sequenceOf (separator.map .literal)).searchIn mustAdvance position previous ahead text =
        none ∧ ¬ separator <:+: text ∨
      ∃ before behind start found,
        (sequenceOf (separator.map .literal)).searchIn mustAdvance position previous ahead text =
          some (start, found) ∧
        Leftmost separator text before behind ∧ start.position = position + before.length ∧
        found.cursor.rest = behind := by
  induction text generalizing mustAdvance position previous ahead with
  | nil =>
      refine .inl ⟨?_, by simpa using nonempty⟩
      rw [Pattern.searchIn, Pattern.no_match_literals _ _ (by simpa using nonempty)]
      rfl
  | cons character rest ih =>
      let cursor : Cursor := ⟨position, previous, character :: rest, ahead⟩
      by_cases stands : separator <+: character :: rest
      · obtain ⟨behind, same⟩ := stands
        obtain ⟨found, matched, left, -⟩ :=
          Pattern.match_literals mustAdvance cursor nonempty same.symm
        refine .inr ⟨[], behind, cursor, found, ?_, same ▸ .here separator behind, rfl, left⟩
        rw [Pattern.searchIn, matched]
      · have unmatched := Pattern.no_match_literals mustAdvance cursor stands
        rcases ih false (position + 1) (some character) (ahead - 1) with
          ⟨nothing, free⟩ | ⟨before, behind, start, found, search, leftmost, reached, left⟩
        · refine .inl ⟨?_, ?_⟩
          · rw [Pattern.searchIn, unmatched]
            exact nothing
          · rw [List.infix_cons_iff]
            exact not_or.mpr ⟨stands, free⟩
        · refine .inr ⟨character :: before, behind, start, found, ?_, leftmost.later stands, ?_,
            left⟩
          · rw [Pattern.searchIn, unmatched]
            exact search
          · rw [reached, List.length_cons]
            omega

/-- Splitting from a place on cuts the text there. Every piece but the last is followed by a
separator, so as many rounds as there are characters are enough. -/
theorem split_from_cuts {fuel : Nat} {cursor : Cursor} (enough : cursor.rest.length < fuel)
    (mustAdvance : Bool) :
    ∃ pieces, Cuts separator cursor.rest pieces ∧
      CompiledPattern.splitFrom ⟨sequenceOf (separator.map .literal), 0⟩ fuel mustAdvance cursor =
        pieces.map fun piece => some (String.ofList piece) := by
  induction fuel generalizing cursor mustAdvance with
  | zero => cases enough
  | succ fuel ih =>
      rw [CompiledPattern.splitFrom, Pattern.search?]
      rcases search_literals nonempty mustAdvance cursor.position cursor.previous cursor.ahead
          cursor.rest with
        ⟨nothing, free⟩ | ⟨before, behind, start, found, search, leftmost, reached, left⟩
      · rw [nothing]
        exact ⟨[cursor.rest], .whole free, rfl⟩
      · have shorter : found.cursor.rest.length < fuel := by
          have size : separator.length ≠ 0 := by simpa using nonempty
          rw [leftmost.whole, ← left] at enough
          simp only [List.length_append] at enough
          omega
        have front : cursor.upTo start = before := by
          rw [Cursor.upTo, reached, leftmost.whole]
          simp
        obtain ⟨pieces, cuts, split⟩ := ih shorter (found.cursor.position == start.position)
        rw [search]
        refine ⟨before :: pieces, .cut leftmost (left ▸ cuts), ?_⟩
        simp [front, CompiledPattern.capturesOf, split]

theorem split_cuts (text : String) :
    ∃ pieces, Cuts separator text.toList pieces ∧
      CompiledPattern.split ⟨sequenceOf (separator.map .literal), 0⟩ text =
        pieces.map fun piece => some (String.ofList piece) := by
  have enough : (Cursor.ofText text).rest.length < 2 * text.length + 2 := by
    change text.toList.length < _
    rw [String.length_toList]
    omega
  exact split_from_cuts nonempty enough false

end Splitting

namespace Prelude

theorem display_texts_strings (texts : List String) :
    Value.displayTexts (texts.map .string) = .ok (texts.map some) := by
  induction texts with
  | nil => rfl
  | cons text rest ih =>
      simp [Value.displayTexts, Value.displayText, ih, pure, Except.pure, bind, Except.bind]

theorem join_texts (separator : String) (index : Nat) (texts : List String) :
    joinTexts separator index (texts.map some) = .ok (separator.intercalate texts) := by
  induction texts generalizing index with
  | nil => simp [joinTexts, pure, Except.pure]
  | cons text rest ih =>
      cases rest with
      | nil => simp [joinTexts, pure, Except.pure]
      | cons next others =>
          have later := ih (index + 1)
          rw [List.map_cons] at later
          simp [joinTexts, later, pure, Except.pure, bind, Except.bind]

theorem joined_strings (separator : String) (texts : List String) :
    joined separator (texts.map .string) = .ok (separator.intercalate texts) := by
  rw [joined, display_texts_strings]
  exact join_texts separator 0 texts

end Prelude

theorem string_join_answers (separator : String) (texts : List String) :
    Native.stringJoin.Answers [.string separator, .list (texts.map .string)]
      (.string (separator.intercalate texts)) := by
  refine Native.answers_of_invoke fun call => ?_
  change Prelude.pureReply (.string <$> Prelude.joined separator (texts.map .string)) = _
  rw [Prelude.joined_strings]
  rfl

section Ordinary

open PatternReader.PatternState (sequenceOf)

variable {separator : String}
  (ordinary : ∀ character ∈ separator.toList, Pattern.Ordinary character)

include ordinary

theorem string_split_answers {text : String} {pieces : List String}
    (split : CompiledPattern.split ⟨sequenceOf (separator.toList.map .literal), 0⟩ text =
      pieces.map some) :
    Native.stringSplit.Answers [.string text, .string separator]
      (.list (pieces.map .string)) := by
  refine Native.answers_of_invoke fun call => ?_
  have result : Prelude.stringSplitAt [.string text, .string separator] =
      .ok (.list (pieces.map .string)) := by
    simp [Prelude.stringSplitAt, Prelude.text, Prelude.textFor, read_ordinary ordinary, split,
      Prelude.piece, pure, Except.pure, bind, Except.bind]
  change Prelude.pureReply (Prelude.stringSplitAt [.string text, .string separator]) = _
  rw [result]

theorem string_split_cuts (nonempty : separator ≠ "") (text : String) :
    ∃ pieces, Cuts separator.toList text.toList pieces ∧
      Native.stringSplit.Answers [.string text, .string separator]
        (.list ((pieces.map String.ofList).map .string)) := by
  have characters : separator.toList ≠ [] := by simpa using nonempty
  obtain ⟨pieces, cuts, split⟩ := split_cuts characters text
  refine ⟨pieces, cuts, string_split_answers ordinary ?_⟩
  rw [split, List.map_map]
  rfl

/-- Splitting at a separator of ordinary characters gives pieces without it, and joining them
gives the text back. Splitting at one character gives back what was joined by it, if it stands
in none of the parts. -/
theorem joining_undoes_splitting (nonempty : separator ≠ "") :
    (∀ text : String, ∃ pieces : List String, pieces ≠ [] ∧
      (∀ piece ∈ pieces, ¬ separator.toList <:+: piece.toList) ∧
      Native.stringSplit.Answers [.string text, .string separator] (.list (pieces.map .string)) ∧
      Native.stringJoin.Answers [.string separator, .list (pieces.map .string)] (.string text)) ∧
    (∀ character, separator = String.singleton character →
      ∀ parts : List String, parts ≠ [] → (∀ part ∈ parts, character ∉ part.toList) →
      ∃ text,
        Native.stringJoin.Answers [.string separator, .list (parts.map .string)] (.string text) ∧
        Native.stringSplit.Answers [.string text, .string separator]
          (.list (parts.map .string))) := by
  have characters : separator.toList ≠ [] := by simpa using nonempty
  constructor
  · intro text
    obtain ⟨pieces, cuts, split⟩ := string_split_cuts ordinary nonempty text
    have whole : separator.intercalate (pieces.map String.ofList) = text := by
      rw [← String.toList_inj, String.toList_intercalate, List.map_map]
      simpa using cuts.joined
    refine ⟨pieces.map String.ofList, by simpa using cuts.nonempty, ?_, split, ?_⟩
    · simpa using cuts.free characters
    · rw [← whole]
      exact string_join_answers separator _
  · rintro character rfl parts filled absent
    let text := (String.singleton character).intercalate parts
    obtain ⟨pieces, cuts, split⟩ := string_split_cuts ordinary nonempty text
    have expected : Cuts [character] text.toList (parts.map String.toList) := by
      rw [String.toList_intercalate, String.toList_singleton]
      exact .of_parts (by simpa using filled) (by simpa using absent)
    rw [String.toList_singleton] at cuts
    obtain rfl := cuts.unique expected
    refine ⟨text, string_join_answers _ parts, ?_⟩
    simpa using split

end Ordinary

/-- Separators that overlap, and one at the end. -/
theorem joining_undoes_splitting_overlapping :
    Native.stringSplit.Answers [.string "ababacaba", .string "aba"]
        (.list [.string "", .string "bac", .string ""]) ∧
      Native.stringJoin.Answers [.string "aba", .list [.string "", .string "bac", .string ""]]
        (.string "ababacaba") := by
  have ordinary : ∀ character ∈ "aba".toList, Pattern.Ordinary character := by
    simp [Pattern.Ordinary]
  obtain ⟨pieces, -, -, split, join⟩ :=
    (joining_undoes_splitting ordinary (by decide)).1 "ababacaba"
  have cut : CompiledPattern.split ⟨PatternReader.PatternState.sequenceOf
      ("aba".toList.map .literal), 0⟩ "ababacaba" = ["", "bac", ""].map some := by
    decide +kernel
  have expected := string_split_answers ordinary cut
  rw [split.unique expected] at join
  exact ⟨expected, join⟩

end Lisplet
