import Lisplet.Pattern.Matching
import Mathlib.Tactic.Common

/-!
# Patterns of ordinary characters

A pattern without any character that patterns give a meaning of its own matches its own text
and nothing else.
-/

namespace Lisplet

/-- A character that stands for itself in a pattern, wherever it stands. -/
def Pattern.Ordinary (character : Char) : Prop :=
  character ∉ ['\\', '[', '*', '+', '?', '{', '.', '(', ')', '|', '^', '$']

namespace PatternReader

open Pattern (Ordinary)

theorem marks_of_ordinary {text : List Char} (ordinary : ∀ character ∈ text, Ordinary character) :
    PatternMark.ofText text = text.map .plain := by
  induction text with
  | nil => rfl
  | cons character rest ih =>
      have other : character ≠ '\\' := by
        rintro rfl
        exact ordinary _ (.head _) (by decide)
      rw [PatternMark.ofText, ih fun later member => ordinary later (.tail _ member)]
      · rfl
      · simp [other]
      · simp [other]

theorem checked_plain (text : List Char) (offset : Nat) :
    checked ⟨text.map .plain, offset⟩ = .ok ⟨text.map .plain, offset⟩ := by
  cases text <;> rfl

theorem item_ordinary {character : Char} (ordinary : Ordinary character) (rest : List Char)
    (offset : Nat) (state : PatternState) :
    item ⟨(character :: rest).map .plain, offset⟩ state (.plain character) =
      .ok (state.add (.literal character), ⟨rest.map .plain, offset + 1⟩) := by
  have behind : skip ⟨(character :: rest).map .plain, offset⟩ 1 =
      .ok ⟨rest.map .plain, offset + 1⟩ := checked_plain rest (offset + 1)
  simp only [Ordinary, List.mem_cons, List.not_mem_nil, or_false, not_or] at ordinary
  unfold item
  rw [behind]
  simp only [bind, Except.bind]
  split_ifs with closing
  · simp_all
  · -- Every other alternative of the reader asks for one of the characters excluded.
    split <;> simp_all [pure, Except.pure]

theorem items_ordinary {text : List Char} (ordinary : ∀ character ∈ text, Ordinary character)
    {fuel : Nat} (enough : text.length ≤ fuel) (offset : Nat) (state : PatternState) :
    items fuel state ⟨text.map .plain, offset⟩ =
      .ok { state with items := (text.map Pattern.literal).reverse ++ state.items } := by
  induction text generalizing fuel offset state with
  | nil => cases fuel <;> rfl
  | cons character rest ih =>
      cases fuel with
      | zero => cases enough
      | succ fuel =>
          have first := item_ordinary (ordinary character (.head _)) rest offset state
          have others := ih (fun later member => ordinary later (.tail _ member))
            (Nat.le_of_succ_le_succ enough) (offset + 1) (state.add (.literal character))
          change (item _ state (.plain character) >>= _) = _
          rw [first]
          change items fuel _ _ = _
          rw [others]
          simp [PatternState.add]

end PatternReader

theorem read_ordinary {text : String}
    (ordinary : ∀ character ∈ text.toList, Pattern.Ordinary character) :
    readPattern text =
      .ok ⟨PatternReader.PatternState.sequenceOf (text.toList.map .literal), 0⟩ := by
  unfold readPattern
  simp only [PatternReader.marks_of_ordinary ordinary, PatternReader.checked_plain, bind,
    Except.bind, List.length_map]
  rw [PatternReader.items_ordinary ordinary (Nat.le_refl _)]
  simp [PatternReader.PatternState.body, PatternReader.PatternState.branch,
    PatternReader.PatternState.alternativeOf, pure, Except.pure]

namespace Cursor

theorem past_of_append (cursor : Cursor) {text behind : List Char}
    (ahead : cursor.rest = text ++ behind) :
    ∃ stop, cursor.past? text = some stop ∧ stop.rest = behind ∧
      stop.position = cursor.position + text.length := by
  induction text generalizing cursor with
  | nil => exact ⟨cursor, rfl, ahead, rfl⟩
  | cons character text ih =>
      obtain ⟨position, previous, rest, size⟩ := cursor
      obtain rfl : rest = character :: (text ++ behind) := ahead
      obtain ⟨stop, passed, left, reached⟩ :=
        ih ⟨position + 1, some character, text ++ behind, size - 1⟩ rfl
      refine ⟨stop, ?_, left, ?_⟩
      · simpa [past?, next?] using passed
      · rw [reached, List.length_cons, Nat.add_comm text.length 1, ← Nat.add_assoc]

theorem past_of_not_prefix (cursor : Cursor) {text : List Char} (other : ¬ text <+: cursor.rest) :
    cursor.past? text = none := by
  induction text generalizing cursor with
  | nil => exact absurd List.nil_prefix other
  | cons character text ih =>
      obtain ⟨position, previous, rest, size⟩ := cursor
      cases rest with
      | nil => rfl
      | cons first rest =>
          by_cases same : first = character
          · subst same
            have later := ih ⟨position + 1, some first, rest, size - 1⟩
              fun ahead => other (List.cons_prefix_cons.mpr ⟨rfl, ahead⟩)
            simpa [past?, next?] using later
          · simp [past?, next?, same]

end Cursor

namespace Pattern

open PatternReader.PatternState (sequenceOf)

theorem run_sequence_of_cons (item : Pattern) (items : List Pattern) (proceed : Continuation) :
    (sequenceOf (item :: items)).run proceed = item.run ((sequenceOf items).run proceed) := by
  cases items <;> rfl

theorem run_literals (text : List Char) (proceed : Continuation) (state : MatchState) :
    (sequenceOf (text.map .literal)).run proceed state =
      (state.cursor.past? text).bind fun stop => proceed { state with cursor := stop } := by
  induction text generalizing state with
  | nil => rfl
  | cons character rest ih =>
      rw [List.map_cons, run_sequence_of_cons]
      change pass (· == character) _ state = _
      unfold pass Cursor.past?
      cases state.cursor.next? with
      | none => rfl
      | some pair =>
          obtain ⟨first, behind⟩ := pair
          by_cases same : first = character
          · simp [same, ih]
          · simp [same]

section Matching

variable {separator : List Char} (mustAdvance : Bool) (cursor : Cursor)

theorem match_literals {behind : List Char} (nonempty : separator ≠ [])
    (ahead : cursor.rest = separator ++ behind) :
    ∃ found, (sequenceOf (separator.map .literal)).matchAt? mustAdvance cursor = some found ∧
      found.cursor.rest = behind ∧
      found.cursor.position = cursor.position + separator.length := by
  obtain ⟨stop, passed, left, reached⟩ := cursor.past_of_append ahead
  have size : separator.length ≠ 0 := by simpa using nonempty
  have moved : stop.position ≠ cursor.position := by omega
  refine ⟨{ cursor := stop }, ?_, left, reached⟩
  rw [matchAt?, run_literals, passed]
  simp [moved]

theorem no_match_literals (other : ¬ separator <+: cursor.rest) :
    (sequenceOf (separator.map .literal)).matchAt? mustAdvance cursor = none := by
  rw [matchAt?, run_literals, cursor.past_of_not_prefix other]
  rfl

end Matching

end Pattern

end Lisplet
