import Lisplet.Config.Cursor

/-!
# How scalars are spelled

A scalar is written plainly, in single or double quotes, or as a block of lines
behind a bar or an angle. Over the end of a line, plain and quoted scalars and
folded blocks join their lines with a space.
-/

namespace Lisplet.Config

structure Spelled where
  text : List Char
  behind : Cursor
  /-- Whether the scalar was followed by the end of its line. -/
  lineEnded : Bool := false

/-- What the end of a line and the empty lines behind it stand for. -/
def foldedBreak (lineEnd : Char) (empty : List Char) : List Char :=
  if lineEnd ≠ '\n' then lineEnd :: empty
  else if empty.isEmpty then [' ']
  else empty

/-! ## Plain scalars -/

/-- Whether a colon before this character ends a plain scalar. -/
def endsKey (inFlow : Bool) (next : Option Char) : Bool :=
  endsWord next || (inFlow && next.any [',', '[', ']', '\x7b', '\x7d'].contains)

def plainRun (inFlow : Bool) : List Char → List Char
  | [] => []
  | character :: rest =>
      if endsWord (some character) || (character = ':' && endsKey inFlow rest.head?) ||
          (inFlow && [',', '?', '[', ']', '\x7b', '\x7d'].contains character) then
        []
      else character :: plainRun inFlow rest

/-- Moves over empty lines, gathering their ends. Nothing is returned where a
document starts or ends. -/
def emptyLines : Nat → Cursor → List Char → Option (List Char × Cursor)
  | 0, cursor, breaks => some (breaks.reverse, cursor)
  | fuel + 1, cursor, breaks =>
      if cursor.peek = some ' ' then emptyLines fuel cursor.forward breaks
      else
        match cursor.lineBreak? with
        | none => some (breaks.reverse, cursor)
        | some (lineEnd, behind) =>
            if behind.seesSeparator then none
            else emptyLines fuel behind (lineEnd :: breaks)

structure PlainGap where
  /-- Empty if the scalar ends here. -/
  text : List Char
  behind : Cursor
  lineEnded : Bool

def plainGap (cursor : Cursor) : PlainGap :=
  let (blanks, behind) := cursor.takeAll (· = ' ')
  match behind.lineBreak? with
  | none => ⟨blanks, behind, false⟩
  | some (lineEnd, next) =>
      if next.seesSeparator then ⟨[], next, true⟩
      else
        match emptyLines next.rest.length next [] with
        | none => ⟨[], next, true⟩
        | some (breaks, further) => ⟨foldedBreak lineEnd breaks, further, true⟩

/-- Reads the parts of a plain scalar; `gap` stands before the next one. -/
def plainParts (inFlow : Bool) (indent : Int) :
    Nat → Cursor → List Char → Spelled → Spelled
  | 0, _, _, read => read
  | fuel + 1, cursor, gap, read =>
      let run := plainRun inFlow cursor.rest
      if cursor.peek = some '#' || run.isEmpty then { read with behind := cursor }
      else
        let next := plainGap (cursor.forwardBy run.length)
        let longer : Spelled := ⟨read.text ++ gap ++ run, next.behind, next.lineEnded⟩
        if next.text.isEmpty || next.behind.peek = some '#' ||
            (!inFlow && (next.behind.column : Int) < indent) then
          longer
        else plainParts inFlow indent fuel next.behind next.text longer

def plainScalar (inFlow : Bool) (indent : Int) (cursor : Cursor) : Spelled :=
  plainParts inFlow (indent + 1) (cursor.rest.length + 1) cursor [] ⟨[], cursor, false⟩

/-! ## Quoted scalars -/

def escaped? : Char → Option Char
  | '0' => some '\x00'
  | 'a' => some '\x07'
  | 'b' => some '\x08'
  | 't' => some '\t'
  | '\t' => some '\t'
  | 'n' => some '\n'
  | 'v' => some '\x0b'
  | 'f' => some '\x0c'
  | 'r' => some '\r'
  | 'e' => some '\x1b'
  | ' ' => some ' '
  | '"' => some '"'
  | '\\' => some '\\'
  | '/' => some '/'
  | 'N' => some '\u0085'
  | '_' => some '\u00a0'
  | 'L' => some '\u2028'
  | 'P' => some '\u2029'
  | _ => none

def codeLength? : Char → Option Nat
  | 'x' => some 2
  | 'u' => some 4
  | 'U' => some 8
  | _ => none

def hexValue? (digit : Char) : Option Nat :=
  if digit.isDigit then some (digit.toNat - '0'.toNat)
  else if 'a' ≤ digit.toLower && digit.toLower ≤ 'f' then
    some (digit.toLower.toNat - 'a'.toNat + 10)
  else none

def hexCode? (digits : List Char) : Option Nat :=
  digits.foldlM (fun total digit => (hexValue? digit).map (total * 16 + ·)) 0

def characterOf (code : Nat) : Except ConfigFault Char :=
  if code.isValidChar then return Char.ofNat code
  else if code < 0x110000 then return '\ufffd'
  else throw (.noCharacter code)

/-- Moves over the blanks and line ends inside quotes, behind a line end. -/
def quotedLines : Nat → Cursor → List Char → Except ConfigFault (List Char × Cursor)
  | 0, cursor, breaks => return (breaks.reverse, cursor)
  | fuel + 1, cursor, breaks =>
      if cursor.seesSeparator then throw .malformed
      else
        let start := cursor.skip isSpaceOrTab
        match start.lineBreak? with
        | none => return (breaks.reverse, start)
        | some (lineEnd, behind) => quotedLines fuel behind (lineEnd :: breaks)

def escapeSequence (cursor : Cursor) : Except ConfigFault (List Char × Cursor) :=
  match cursor.rest with
  | [] => throw .malformed
  | letter :: rest =>
      match escaped? letter, codeLength? letter, cursor.lineBreak? with
      | some character, _, _ => return ([character], cursor.forward)
      | none, some length, _ =>
          match hexCode? (rest.take length) with
          | some code =>
              if rest.length < length then throw .malformed
              else do
                let character ← characterOf code
                return ([character], cursor.forwardBy (length + 1))
          | none => throw .malformed
      | none, none, some (_, behind) => quotedLines (behind.rest.length + 1) behind []
      | none, none, none => throw .malformed

def quotedParts (quote : Char) :
    Nat → Cursor → List Char → Except ConfigFault Spelled
  | 0, _, _ => throw .malformed
  | fuel + 1, cursor, read =>
      match cursor.rest with
      | [] => throw .malformed
      | character :: rest =>
          if quote = '\'' && character = '\'' && rest.head? = some '\'' then
            quotedParts quote fuel (cursor.forwardBy 2) (read ++ ['\''])
          else if character = quote then return ⟨read, cursor.forward, false⟩
          else if quote = '"' && character = '\\' then do
            let (text, behind) ← escapeSequence cursor.forward
            quotedParts quote fuel behind (read ++ text)
          else if isSpaceOrTab character || isBreak character then do
            let (blanks, behind) := cursor.takeAll isSpaceOrTab
            match behind.peek, behind.lineBreak? with
            | none, _ => throw .malformed
            | some _, none => quotedParts quote fuel behind (read ++ blanks)
            | some _, some (lineEnd, next) => do
                let (breaks, further) ← quotedLines (next.rest.length + 1) next []
                quotedParts quote fuel further (read ++ foldedBreak lineEnd breaks)
          else
            let (run, behind) :=
              cursor.takeAll fun found =>
                !(['\'', '"', '\\'].contains found || isSpaceOrTab found || isBreak found)
            if run.isEmpty then quotedParts quote fuel cursor.forward (read ++ [character])
            else quotedParts quote fuel behind (read ++ run)

def quotedScalar (quote : Char) (cursor : Cursor) : Except ConfigFault Spelled :=
  quotedParts quote (cursor.rest.length + 1) cursor.forward []

/-! ## Blocks of lines -/

inductive Chomping where
  | clip
  | strip
  | keep
  deriving DecidableEq

def chomping? : Option Char → Option Chomping
  | some '+' => some .keep
  | some '-' => some .strip
  | _ => none

def increment? : Option Char → Option Nat
  | some digit => if digit.isDigit then some (digit.toNat - '0'.toNat) else none
  | none => none

def blockHead (cursor : Cursor) :
    Except ConfigFault (Chomping × Option Nat × Cursor) := do
  let (chomping, increment, behind) :=
    match chomping? cursor.peek, increment? cursor.peek with
    | some chomping, _ =>
        match increment? cursor.forward.peek with
        | some increment => (chomping, some increment, cursor.forwardBy 2)
        | none => (chomping, none, cursor.forward)
    | none, some increment =>
        match chomping? cursor.forward.peek with
        | some chomping => (chomping, some increment, cursor.forwardBy 2)
        | none => (.clip, some increment, cursor.forward)
    | none, none => (.clip, none, cursor)
  if increment = some 0 || !endsItem behind.peek then throw .malformed
  else return (chomping, increment, behind)

/-- Moves over the empty lines at the start of a block, and finds how far they
are indented. -/
def blockIndentation :
    Nat → Cursor → List Char → Nat → List Char × Nat × Cursor
  | 0, cursor, breaks, deepest => (breaks.reverse, deepest, cursor)
  | fuel + 1, cursor, breaks, deepest =>
      if cursor.peek = some ' ' then
        let next := cursor.forward
        blockIndentation fuel next breaks (max deepest next.column)
      else
        match cursor.lineBreak? with
        | none => (breaks.reverse, deepest, cursor)
        | some (lineEnd, behind) =>
            blockIndentation fuel behind (lineEnd :: breaks) deepest

def skipIndentation (indent : Nat) : Nat → Cursor → Cursor
  | 0, cursor => cursor
  | fuel + 1, cursor =>
      if cursor.column < indent && cursor.peek = some ' ' then
        skipIndentation indent fuel cursor.forward
      else cursor

def blockBreaks (indent : Nat) : Nat → Cursor → List Char → List Char × Cursor
  | 0, cursor, breaks => (breaks.reverse, cursor)
  | fuel + 1, cursor, breaks =>
      let start := skipIndentation indent cursor.rest.length cursor
      match start.lineBreak? with
      | none => (breaks.reverse, start)
      | some (lineEnd, behind) => blockBreaks indent fuel behind (lineEnd :: breaks)

/-- A block that was read, without its last line end and the empty lines behind
it. -/
structure Block where
  text : List Char
  lineEnd : List Char
  breaks : List Char
  behind : Cursor

/-- Reads the lines of a block; `breaks` are the empty lines before the next. -/
def blockLines (folded : Bool) (indent : Nat) : Nat → Block → Block
  | 0, block => block
  | fuel + 1, block =>
      let cursor := block.behind
      if cursor.column ≠ indent || cursor.peek.isNone then block
      else
        let startsFlush := !cursor.sees isSpaceOrTab
        let (line, behind) := cursor.takeAll (!isBreak ·)
        let (lineEnd, next) :=
          match behind.lineBreak? with
          | some (character, further) => ([character], further)
          | none => ([], behind)
        let (breaks, further) := blockBreaks indent (next.rest.length + 1) next []
        let text := block.text ++ block.breaks ++ line
        if further.column = indent && further.peek.isSome then
          let joint :=
            if folded && lineEnd = ['\n'] && startsFlush && !further.sees isSpaceOrTab
            then if breaks.isEmpty then [' '] else []
            else lineEnd
          blockLines folded indent fuel ⟨text ++ joint, [], breaks, further⟩
        else ⟨text, lineEnd, breaks, further⟩

def blockScalar (folded : Bool) (indent : Int) (cursor : Cursor) :
    Except ConfigFault Spelled := do
  let (chomping, increment, behind) ← blockHead cursor.forward
  let start ← behind.skipLineRest
  let least := (max 1 (indent + 1)).toNat
  let fuel := start.rest.length + 1
  let (depth, breaks, first) :=
    match increment with
    | none =>
        let (breaks, deepest, first) := blockIndentation fuel start [] 0
        (max least deepest, breaks, first)
    | some increment =>
        let depth := least + increment - 1
        let (breaks, first) := blockBreaks depth fuel start []
        (depth, breaks, first)
  let block := blockLines folded depth fuel ⟨[], [], breaks, first⟩
  let tail :=
    match chomping with
    | .strip => []
    | .clip => block.lineEnd
    | .keep => block.lineEnd ++ block.breaks
  return ⟨block.text ++ tail, block.behind, false⟩

end Lisplet.Config
