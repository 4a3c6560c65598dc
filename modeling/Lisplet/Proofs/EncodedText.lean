import Lisplet.Text.Utf8
import Mathlib.Tactic.Common

/-!
# Encoded text

Decoding gives back every text that was encoded. The decoder is followed through the bytes
of one character: the first byte announces how many are owed and between which bounds the
next one has to lie, and since a character is neither a surrogate nor beyond the last code
point, the bytes that were written keep to the bounds.
-/

namespace Lisplet.Text

theorem to_nat_byte {number : Nat} (small : number < 256) : number.toUInt8.toNat = number := by
  simp [Nat.toUInt8, Nat.mod_eq_of_lt small]

theorem to_nat_tail_byte (code shift : Nat) :
    (tailByte code shift).toNat = 0x80 + code / Nat.pow 2 shift % 64 :=
  to_nat_byte (by omega)

namespace Decoder

def between (offset : Nat) (characters : List Char) : Decoder :=
  { offset, characters }

variable {offset : Nat} {characters : List Char} {byte : UInt8}

theorem step_single (single : byte.toNat < 0x80) :
    (between offset characters).step byte =
      .ok (between (offset + 1) (Char.ofNat byte.toNat :: characters)) := by
  simp [step, between, start, single]

theorem step_lead {owed low high code : Nat} (multiple : 0x80 ≤ byte.toNat)
    (announced : announced? byte.toNat = some (owed, low, high, code)) :
    (between offset characters).step byte =
      .ok { offset := offset + 1
            unfinished := some ⟨byte, offset, 1, owed, low, high, code⟩
            characters } := by
  simp [step, between, start, announced, Nat.not_lt.mpr multiple]

theorem step_last {part : Unfinished} (due : part.owed = 1) (low : part.low ≤ byte.toNat)
    (high : byte.toNat ≤ part.high) :
    step ⟨offset, some part, characters⟩ byte =
      .ok (between (offset + 1)
        (Char.ofNat (part.code * 64 + byte.toNat % 64) :: characters)) := by
  simp [step, between, due, Nat.not_lt.mpr low, Nat.not_lt.mpr high]

theorem step_middle {part : Unfinished} (due : part.owed ≠ 1) (low : part.low ≤ byte.toNat)
    (high : byte.toNat ≤ part.high) :
    step ⟨offset, some part, characters⟩ byte =
      .ok ⟨offset + 1,
        some { part with
          taken := part.taken + 1
          owed := part.owed - 1
          low := 0x80
          high := 0xBF
          code := part.code * 64 + byte.toNat % 64 },
        characters⟩ := by
  simp [step, due, Nat.not_lt.mpr low, Nat.not_lt.mpr high]

theorem announced_two {code : Nat} (low : 0x80 ≤ code) (high : code < 0x800) :
    announced? (0xC0 + code / 64) = some (1, 0x80, 0xBF, code / 64) := by
  unfold announced?
  rw [if_neg (by omega), if_pos (by omega), Nat.add_sub_cancel_left]

theorem announced_three {code : Nat} (low : 0x800 ≤ code) (high : code < 0x10000)
    (scalar : code < 0xD800 ∨ 0xDFFF < code) :
    ∃ lowest highest, announced? (0xE0 + code / 4096) =
        some (2, lowest, highest, code / 4096) ∧
      lowest ≤ 0x80 + code / 64 % 64 ∧ 0x80 + code / 64 % 64 ≤ highest := by
  unfold announced?
  rw [if_neg (by omega), if_neg (by omega)]
  split_ifs with first surrogates
  · exact ⟨0xA0, 0xBF, by simp; omega, by omega, by omega⟩
  · exact ⟨0x80, 0x9F, by simp; omega, by omega, by omega⟩
  · exact ⟨0x80, 0xBF, by simp, by omega, by omega⟩
  all_goals omega

theorem announced_four {code : Nat} (low : 0x10000 ≤ code) (high : code < 0x110000) :
    ∃ lowest highest, announced? (0xF0 + code / 262144) =
        some (3, lowest, highest, code / 262144) ∧
      lowest ≤ 0x80 + code / 4096 % 64 ∧ 0x80 + code / 4096 % 64 ≤ highest := by
  unfold announced?
  rw [if_neg (by omega), if_neg (by omega), if_neg (by omega), if_neg (by omega),
    if_neg (by omega)]
  split_ifs with first within last
  · exact ⟨0x90, 0xBF, by simp; omega, by omega, by omega⟩
  · exact ⟨0x80, 0xBF, by simp, by omega, by omega⟩
  · exact ⟨0x80, 0x8F, by simp; omega, by omega, by omega⟩
  · omega

theorem fold_step {decoder next : Decoder} (read : decoder.step byte = .ok next) (rest : Bytes) :
    (byte :: rest).foldlM step decoder = rest.foldlM step next := by
  rw [List.foldlM_cons, read]
  rfl

theorem fold_two {code : Nat} (low : 0x80 ≤ code) (high : code < 0x800) :
    [(0xC0 + code / 64).toUInt8, tailByte code 0].foldlM step (between offset characters) =
      .ok (between (offset + 2) (Char.ofNat code :: characters)) := by
  have lead : (0xC0 + code / 64).toUInt8.toNat = 0xC0 + code / 64 := to_nat_byte (by omega)
  have tail : (tailByte code 0).toNat = 0x80 + code % 64 := by
    simp [to_nat_tail_byte, Nat.div_one]
  rw [fold_step (step_lead (by omega) (by rw [lead]; exact announced_two low high)),
    fold_step (step_last rfl (by simp [tail]) (by simp [tail]; omega)), tail]
  have whole : code / 64 * 64 + (0x80 + code % 64) % 64 = code := by omega
  rw [whole]
  rfl

theorem fold_three {code : Nat} (low : 0x800 ≤ code) (high : code < 0x10000)
    (scalar : code < 0xD800 ∨ 0xDFFF < code) :
    [(0xE0 + code / 4096).toUInt8, tailByte code 6, tailByte code 0].foldlM step
        (between offset characters) =
      .ok (between (offset + 3) (Char.ofNat code :: characters)) := by
  have lead : (0xE0 + code / 4096).toUInt8.toNat = 0xE0 + code / 4096 := to_nat_byte (by omega)
  have second : (tailByte code 6).toNat = 0x80 + code / 64 % 64 := to_nat_tail_byte code 6
  have third : (tailByte code 0).toNat = 0x80 + code % 64 := by
    simp [to_nat_tail_byte, Nat.div_one]
  obtain ⟨lowest, highest, announced, above, below⟩ := announced_three low high scalar
  rw [fold_step (step_lead (by omega) (by rw [lead]; exact announced)),
    fold_step (step_middle (by simp) (by simpa [second]) (by simpa [second])),
    fold_step (step_last rfl (by simp [third]) (by simp [third]; omega)), second, third]
  have whole : (code / 4096 * 64 + (0x80 + code / 64 % 64) % 64) * 64 + (0x80 + code % 64) % 64 =
      code := by omega
  dsimp only
  rw [whole]
  rfl

theorem fold_four {code : Nat} (low : 0x10000 ≤ code) (high : code < 0x110000) :
    [(0xF0 + code / 262144).toUInt8, tailByte code 12, tailByte code 6,
        tailByte code 0].foldlM step (between offset characters) =
      .ok (between (offset + 4) (Char.ofNat code :: characters)) := by
  have lead : (0xF0 + code / 262144).toUInt8.toNat = 0xF0 + code / 262144 :=
    to_nat_byte (by omega)
  have second : (tailByte code 12).toNat = 0x80 + code / 4096 % 64 := to_nat_tail_byte code 12
  have third : (tailByte code 6).toNat = 0x80 + code / 64 % 64 := to_nat_tail_byte code 6
  have fourth : (tailByte code 0).toNat = 0x80 + code % 64 := by
    simp [to_nat_tail_byte, Nat.div_one]
  obtain ⟨lowest, highest, announced, above, below⟩ := announced_four low high
  rw [fold_step (step_lead (by omega) (by rw [lead]; exact announced)),
    fold_step (step_middle (by simp) (by simpa [second]) (by simpa [second])),
    fold_step (step_middle (by simp) (by simp [third]) (by simp [third]; omega)),
    fold_step (step_last rfl (by simp [fourth]) (by simp [fourth]; omega)),
    second, third, fourth]
  have whole : ((code / 262144 * 64 + (0x80 + code / 4096 % 64) % 64) * 64 +
      (0x80 + code / 64 % 64) % 64) * 64 + (0x80 + code % 64) % 64 = code := by omega
  dsimp only
  rw [whole]
  rfl

theorem fold_character (offset : Nat) (characters : List Char) (character : Char) :
    ∃ next, (encodeCharacter character).foldlM step (between offset characters) =
      .ok (between next (character :: characters)) := by
  have scalar : character.toNat < 0xD800 ∨ 0xDFFF < character.toNat ∧ character.toNat < 0x110000 :=
    character.valid
  have same : Char.ofNat character.toNat = character := Char.ofNat_toNat character
  unfold encodeCharacter
  dsimp only
  split_ifs with one two three
  · have single : character.toNat.toUInt8.toNat = character.toNat := to_nat_byte (by omega)
    refine ⟨offset + 1, ?_⟩
    rw [fold_step (step_single (by omega)), single, same]
    rfl
  · exact ⟨offset + 2, by rw [fold_two (by omega) two, same]⟩
  · exact ⟨offset + 3, by rw [fold_three (by omega) three (by omega), same]⟩
  · exact ⟨offset + 4, by rw [fold_four (by omega) (by omega), same]⟩

theorem fold_text (offset : Nat) (characters text : List Char) :
    ∃ next, (text.flatMap encodeCharacter).foldlM step (between offset characters) =
      .ok (between next (text.reverse ++ characters)) := by
  induction text generalizing offset characters with
  | nil => exact ⟨offset, rfl⟩
  | cons character rest ih =>
      obtain ⟨middle, first⟩ := fold_character offset characters character
      obtain ⟨next, others⟩ := ih middle (character :: characters)
      refine ⟨next, ?_⟩
      rw [List.flatMap_cons, List.foldlM_append, first, List.reverse_cons, List.append_assoc]
      exact others

end Decoder

theorem decode_encode (text : String) : decodeText (encodeText text) = .ok text := by
  obtain ⟨next, read⟩ := Decoder.fold_text 0 [] text.toList
  have folded : (encodeText text).foldlM Decoder.step {} =
      .ok (Decoder.between next (text.toList.reverse ++ [])) := read
  rw [decodeText, folded]
  simp [Decoder.between, Decoder.finish, bind, Except.bind]

end Lisplet.Text
