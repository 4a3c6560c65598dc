import Lisplet.Text.Quoted

/-!
# UTF-8

Characters as bytes and back. The decoder reads one byte at a time; it refuses
the first byte that cannot go on what came before, and says which bytes are at
fault.
-/

namespace Lisplet.Text

abbrev Bytes := List UInt8

def tailByte (code shift : Nat) : UInt8 :=
  (0x80 + code / Nat.pow 2 shift % 64).toUInt8

def encodeCharacter (character : Char) : Bytes :=
  let code := character.toNat
  if code < 0x80 then [code.toUInt8]
  else if code < 0x800 then [(0xC0 + code / 64).toUInt8, tailByte code 0]
  else if code < 0x10000 then
    [(0xE0 + code / 4096).toUInt8, tailByte code 6, tailByte code 0]
  else
    [(0xF0 + code / 262144).toUInt8, tailByte code 12, tailByte code 6,
      tailByte code 0]

def encodeText (text : String) : Bytes :=
  text.toList.flatMap encodeCharacter

inductive DecodeFlaw where
  | invalidStart
  | invalidContinuation
  | unexpectedEnd
  deriving DecidableEq

/-- Bytes `start` to `stop - 1` are no character; the first of them is `first`. -/
structure DecodeError where
  flaw : DecodeFlaw
  first : UInt8
  start : Nat
  stop : Nat
  deriving DecidableEq

/-- A character of which `taken` bytes were read and `owed` more are due. The
next one has to lie between `low` and `high`. -/
structure Unfinished where
  first : UInt8
  start : Nat
  taken : Nat
  owed : Nat
  low : Nat
  high : Nat
  code : Nat
  deriving DecidableEq

/-- Characters are kept in reverse. -/
structure Decoder where
  offset : Nat := 0
  unfinished : Option Unfinished := none
  characters : List Char := []
  deriving DecidableEq

namespace Decoder

/-- What the first byte of a longer character announces: how many bytes are
owed, the bounds of the next one, and the leading bits. The bounds keep out
overlong forms, surrogates and code points beyond the last. -/
def announced? (byte : Nat) : Option (Nat × Nat × Nat × Nat) :=
  if byte < 0xC2 then none
  else if byte < 0xE0 then some (1, 0x80, 0xBF, byte - 0xC0)
  else if byte = 0xE0 then some (2, 0xA0, 0xBF, 0)
  else if byte = 0xED then some (2, 0x80, 0x9F, 13)
  else if byte < 0xF0 then some (2, 0x80, 0xBF, byte - 0xE0)
  else if byte = 0xF0 then some (3, 0x90, 0xBF, 0)
  else if byte < 0xF4 then some (3, 0x80, 0xBF, byte - 0xF0)
  else if byte = 0xF4 then some (3, 0x80, 0x8F, 4)
  else none

def start (decoder : Decoder) (byte : UInt8) : Except DecodeError Decoder :=
  if byte.toNat < 0x80 then
    .ok { decoder with
      offset := decoder.offset + 1
      characters := Char.ofNat byte.toNat :: decoder.characters }
  else
    match announced? byte.toNat with
    | some (owed, low, high, code) =>
        .ok { decoder with
          offset := decoder.offset + 1
          unfinished := some ⟨byte, decoder.offset, 1, owed, low, high, code⟩ }
    | none =>
        .error ⟨.invalidStart, byte, decoder.offset, decoder.offset + 1⟩

def step (decoder : Decoder) (byte : UInt8) : Except DecodeError Decoder :=
  match decoder.unfinished with
  | none => decoder.start byte
  | some part =>
      if byte.toNat < part.low || part.high < byte.toNat then
        .error ⟨.invalidContinuation, part.first, part.start,
          part.start + part.taken⟩
      else
        let code := part.code * 64 + byte.toNat % 64
        if part.owed = 1 then
          .ok ⟨decoder.offset + 1, none, Char.ofNat code :: decoder.characters⟩
        else
          .ok { decoder with
            offset := decoder.offset + 1
            unfinished := some { part with
              taken := part.taken + 1
              owed := part.owed - 1
              low := 0x80
              high := 0xBF
              code } }

def finish (decoder : Decoder) : Except DecodeError String :=
  match decoder.unfinished with
  | none => .ok (String.ofList decoder.characters.reverse)
  | some part => .error ⟨.unexpectedEnd, part.first, part.start, decoder.offset⟩

end Decoder

def decodeText (bytes : Bytes) : Except DecodeError String := do
  let decoder ← bytes.foldlM Decoder.step {}
  decoder.finish

def pieceSize : Nat := 8192

namespace Decoder

/-- Starts a new piece: places are counted from the bytes of a character that is
not finished. -/
def restart (decoder : Decoder) : Decoder :=
  match decoder.unfinished with
  | none => { decoder with offset := 0 }
  | some part => { decoder with
      offset := part.taken, unfinished := some { part with start := 0 } }

/-- Decodes bytes of which `room` more fit into the piece. -/
def pieces : Nat → Decoder → Bytes → Except DecodeError Decoder
  | _, decoder, [] => .ok decoder.restart
  | 0, decoder, byte :: rest => do
      let next ← decoder.restart.step byte
      pieces (pieceSize - 1) next rest
  | room + 1, decoder, byte :: rest => do
      let next ← decoder.step byte
      pieces room next rest

end Decoder

def decodePieces (bytes : Bytes) : Except DecodeError String := do
  let decoder ← Decoder.pieces pieceSize {} bytes
  decoder.finish

def DecodeFlaw.text : DecodeFlaw → String
  | .invalidStart => "invalid start byte"
  | .invalidContinuation => "invalid continuation byte"
  | .unexpectedEnd => "unexpected end of data"

def DecodeError.text (error : DecodeError) : String :=
  let subject :=
    if error.stop - error.start ≤ 1 then
      "byte 0x" ++ String.ofList (hexDigits 2 error.first.toNat) ++
        " in position " ++ toString error.start
    else
      "bytes in position " ++ toString error.start ++ "-" ++
        toString (error.stop - 1)
  "'utf-8' codec can't decode " ++ subject ++ ": " ++ error.flaw.text

/-- Every way to end a line becomes a line feed. -/
def unifyNewlines : List Char → List Char
  | [] => []
  | '\r' :: '\n' :: rest => '\n' :: unifyNewlines rest
  | '\r' :: rest => '\n' :: unifyNewlines rest
  | character :: rest => character :: unifyNewlines rest

end Lisplet.Text
