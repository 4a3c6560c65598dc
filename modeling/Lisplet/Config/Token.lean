import Lisplet.Config.Spelling

/-!
# Tokens of a configuration

Collections are written with brackets, or as blocks that deeper indentation
holds together. A key is known as one only when its colon is met, so a scanner
remembers where a key may have begun and marks that place afterwards.
-/

namespace Lisplet.Config

inductive Directive where
  | version (major : Nat)
  | tag (handle target : String)
  | other

inductive Token where
  | directive (content : Directive)
  | documentStart
  | documentEnd
  | blockSequenceStart
  | blockMappingStart
  | blockEnd
  | flowSequenceStart
  | flowSequenceEnd
  | flowMappingStart
  | flowMappingEnd
  | flowEntry
  | blockEntry
  | key
  | value
  | alias (name : String)
  | anchor (name : String)
  | tag (handle : Option String) (suffix : String)
  | scalar (text : String) (plain : Bool)
  | streamEnd
  /-- The text cannot be read any further. -/
  | flaw (fault : ConfigFault)

/-! ## Names, tags and directives -/

def isNameCharacter (character : Char) : Bool :=
  character.isAlphanum || character = '-' || character = '_'

def isAddressCharacter (character : Char) : Bool :=
  character.isAlphanum || "-;/?:@&=+$,_.!~*'()[]%".toList.contains character

def endsAnchor (character : Option Char) : Bool :=
  endsWord character ||
    character.any ['?', ':', ',', ']', '\x7d', '%', '@', '\x60'].contains

def anchorName (cursor : Cursor) : Except ConfigFault (String × Cursor) :=
  let (name, behind) := cursor.forward.takeAll isNameCharacter
  if name.isEmpty || !endsAnchor behind.peek then throw .malformed
  else return (String.ofList name, behind)

/-- The handle of a tag: an exclamation mark, or a name between two. -/
def tagHandle (cursor : Cursor) : Except ConfigFault (String × Cursor) :=
  if cursor.peek ≠ some '!' then throw .malformed
  else if cursor.forward.peek = some ' ' then return ("!", cursor.forward)
  else
    let (name, behind) := cursor.forward.takeAll isNameCharacter
    if behind.peek = some '!' then
      return (String.ofList ('!' :: name ++ ['!']), behind.forward)
    else throw .malformed

/-- Every percent sign is followed by two hexadecimal digits. -/
def escapesHold : List Char → Bool
  | [] => true
  | '%' :: high :: low :: rest =>
      (hexValue? high).isSome && (hexValue? low).isSome && escapesHold rest
  | '%' :: _ => false
  | _ :: rest => escapesHold rest

def tagAddress (cursor : Cursor) : Except ConfigFault (String × Cursor) :=
  let (address, behind) := cursor.takeAll isAddressCharacter
  if address.isEmpty || !escapesHold address then throw .malformed
  else return (String.ofList address, behind)

/-- Whether a tag that starts with an exclamation mark has a second one. -/
def hasHandle (rest : List Char) : Bool :=
  (rest.takeWhile fun character => !endsItem (some character)).contains '!'

def tagToken (cursor : Cursor) : Except ConfigFault (Token × Cursor) := do
  let (token, behind) ←
    if cursor.forward.peek = some '<' then do
      let (address, behind) ← tagAddress (cursor.forwardBy 2)
      if behind.peek = some '>' then pure (Token.tag none address, behind.forward)
      else throw .malformed
    else if endsWord cursor.forward.peek then
      pure (Token.tag none "!", cursor.forward)
    else do
      let (handle, start) ←
        if hasHandle cursor.forward.rest then tagHandle cursor
        else pure ("!", cursor.forward)
      let (suffix, behind) ← tagAddress start
      pure (Token.tag (some handle) suffix, behind)
  if endsItem behind.peek then return (token, behind) else throw .malformed

def decimalValue (digits : List Char) : Nat :=
  digits.foldl (fun total digit => total * 10 + (digit.toNat - '0'.toNat)) 0

def directiveContent (name : String) (cursor : Cursor) :
    Except ConfigFault (Directive × Cursor) := do
  if name = "YAML" then
    let (major, behind) := (cursor.skip (· = ' ')).takeAll Char.isDigit
    let (minor, further) := behind.forward.takeAll Char.isDigit
    if major.isEmpty || minor.isEmpty || behind.peek ≠ some '.' ||
        !endsItem further.peek then
      throw .malformed
    else return (.version (decimalValue major), further)
  else if name = "TAG" then
    let (handle, behind) ← tagHandle (cursor.skip (· = ' '))
    if behind.peek ≠ some ' ' then throw .malformed
    else
      let (target, further) ← tagAddress (behind.skip (· = ' '))
      if endsItem further.peek then return (.tag handle target, further)
      else throw .malformed
  else return (.other, cursor.skip (!isBreak ·))

def directiveToken (cursor : Cursor) : Except ConfigFault (Token × Cursor) := do
  let (name, behind) := cursor.forward.takeAll isNameCharacter
  if name.isEmpty || !endsItem behind.peek then throw .malformed
  else
    let (content, further) ← directiveContent (String.ofList name) behind
    let next ← further.skipLineRest
    return (.directive content, next)

/-! ## Scanning -/

structure PendingKey where
  /-- How many tokens stand before it. -/
  position : Nat
  /-- Nothing else than a key can stand there. -/
  required : Bool
  index : Nat
  line : Nat
  column : Nat

structure Scan where
  cursor : Cursor
  /-- The tokens found, the last one first. -/
  tokens : List Token := []
  count : Nat := 0
  /-- How many brackets are open. -/
  flowLevel : Nat := 0
  indent : Int := -1
  indents : List Int := []
  keyAllowed : Bool := true
  /-- By the number of brackets around them. -/
  pendingKeys : List (Nat × PendingKey) := []

namespace Scan

def inFlow (scan : Scan) : Bool := scan.flowLevel != 0

def emit (token : Token) (scan : Scan) : Scan :=
  { scan with tokens := token :: scan.tokens, count := scan.count + 1 }

def insertAt (position : Nat) (token : Token) (scan : Scan) : Scan :=
  let later := scan.count - position
  { scan with
    tokens := scan.tokens.take later ++ token :: scan.tokens.drop later
    count := scan.count + 1 }

/-- A key has to end on its line, before it has this many characters. -/
def keyLengthLimit : Nat := 1024

def isStale (scan : Scan) (key : PendingKey) : Bool :=
  key.line != scan.cursor.line || keyLengthLimit < scan.cursor.index - key.index

def forget (picks : Nat × PendingKey → Bool) (scan : Scan) : Except ConfigFault Scan :=
  if scan.pendingKeys.any fun entry => picks entry && entry.2.required then
    throw .malformed
  else return { scan with pendingKeys := scan.pendingKeys.filter (!picks ·) }

def forgetStale (scan : Scan) : Except ConfigFault Scan :=
  scan.forget fun entry => scan.isStale entry.2

def forgetKey (scan : Scan) : Except ConfigFault Scan :=
  scan.forget fun entry => entry.1 == scan.flowLevel

def rememberKey (scan : Scan) : Except ConfigFault Scan := do
  if !scan.keyAllowed then return scan
  else
    let cleared ← scan.forgetKey
    let key : PendingKey :=
      { position := scan.count
        required := !scan.inFlow && scan.indent == scan.cursor.column
        index := scan.cursor.index
        line := scan.cursor.line
        column := scan.cursor.column }
    return { cleared with
      pendingKeys := (scan.flowLevel, key) :: cleared.pendingKeys }

def unwindFrom (column : Int) : Int → List Int → Scan → Scan
  | indent, [], scan => { scan with indent, indents := [] }
  | indent, outer :: rest, scan =>
      if column < indent then unwindFrom column outer rest (scan.emit .blockEnd)
      else { scan with indent, indents := outer :: rest }

def unwind (column : Int) (scan : Scan) : Scan :=
  if scan.inFlow then scan else unwindFrom column scan.indent scan.indents scan

/-- Starts a block at a column, unless one of that depth is open. -/
def deepen (column position : Nat) (token : Token) (scan : Scan) : Scan :=
  if scan.indent < column then
    { scan.insertAt position token with
      indent := column, indents := scan.indent :: scan.indents }
  else scan

def allowKey (allowed : Bool) (scan : Scan) : Scan :=
  { scan with keyAllowed := allowed }

def moveTo (cursor : Cursor) (scan : Scan) : Scan :=
  { scan with cursor }

def advance (length : Nat) (scan : Scan) : Scan :=
  { scan with cursor := scan.cursor.forwardBy length }

def skipBlank : Nat → Scan → Scan
  | 0, scan => scan
  | fuel + 1, scan =>
      let behind := (scan.cursor.skip (· = ' ')).skipComment
      match behind.lineBreak? with
      | none => scan.moveTo behind
      | some (_, next) =>
          skipBlank fuel { scan with
            cursor := next, keyAllowed := scan.keyAllowed || !scan.inFlow }

/-- A byte order mark may stand at the very start. -/
def skipMark (scan : Scan) : Scan :=
  if scan.cursor.index = 0 && scan.cursor.peek = some byteOrderMark then scan.advance 1
  else scan

/-! ### One token -/

def separator (token : Token) (length : Nat) (scan : Scan) : Except ConfigFault Scan := do
  let cleared ← (scan.unwind (-1)).forgetKey
  return ((cleared.allowKey false).advance length).emit token

def directive (scan : Scan) : Except ConfigFault Scan := do
  let (token, behind) ← directiveToken scan.cursor
  let cleared ← (scan.unwind (-1)).forgetKey
  return ((cleared.allowKey false).moveTo behind).emit token

def flowStart (token : Token) (scan : Scan) : Except ConfigFault Scan := do
  let saved ← scan.rememberKey
  return (({ saved with flowLevel := saved.flowLevel + 1 }.allowKey true).advance 1).emit
    token

def flowEnd (token : Token) (scan : Scan) : Except ConfigFault Scan := do
  let cleared ← scan.forgetKey
  return (({ cleared with flowLevel := cleared.flowLevel - 1 }.allowKey false).advance
    1).emit token

def flowEntry (scan : Scan) : Except ConfigFault Scan := do
  let cleared ← scan.forgetKey
  return ((cleared.allowKey true).advance 1).emit .flowEntry

/-- Opens a block at the cursor. Outside of brackets that is possible only where
a key is. -/
def openBlock (token : Token) (scan : Scan) : Except ConfigFault Scan :=
  if scan.inFlow then return scan
  else if !scan.keyAllowed then throw .malformed
  else return scan.deepen scan.cursor.column scan.count token

def blockEntry (scan : Scan) : Except ConfigFault Scan := do
  let opened ← scan.openBlock .blockSequenceStart
  let cleared ← opened.forgetKey
  return ((cleared.allowKey true).advance 1).emit .blockEntry

def explicitKey (scan : Scan) : Except ConfigFault Scan := do
  let opened ← scan.openBlock .blockMappingStart
  let cleared ← opened.forgetKey
  return ((cleared.allowKey !scan.inFlow).advance 1).emit .key

/-- A colon. It makes a key of what was pending. -/
def value (scan : Scan) : Except ConfigFault Scan := do
  match scan.pendingKeys.lookup scan.flowLevel with
  | some key =>
      let rest := scan.pendingKeys.filter fun entry => entry.1 != scan.flowLevel
      let marked := { scan with pendingKeys := rest }.insertAt key.position .key
      let opened :=
        if scan.inFlow then marked
        else marked.deepen key.column key.position .blockMappingStart
      return ((opened.allowKey false).advance 1).emit .value
  | none =>
      let opened ← scan.openBlock .blockMappingStart
      return ((opened.allowKey !scan.inFlow).advance 1).emit .value

def property (token : Token) (behind : Cursor) (scan : Scan) : Except ConfigFault Scan := do
  let saved ← scan.rememberKey
  return ((saved.allowKey false).moveTo behind).emit token

def quoted (quote : Char) (scan : Scan) : Except ConfigFault Scan := do
  let spelled ← quotedScalar quote scan.cursor
  scan.property (.scalar (String.ofList spelled.text) false) spelled.behind

def block (folded : Bool) (scan : Scan) : Except ConfigFault Scan := do
  let cleared ← scan.forgetKey
  let spelled ← blockScalar folded scan.indent scan.cursor
  return ((cleared.allowKey true).moveTo spelled.behind).emit
    (.scalar (String.ofList spelled.text) false)

def plain (scan : Scan) : Except ConfigFault Scan := do
  let saved ← scan.rememberKey
  let spelled := plainScalar scan.inFlow scan.indent scan.cursor
  return ((saved.allowKey spelled.lineEnded).moveTo spelled.behind).emit
    (.scalar (String.ofList spelled.text) true)

/-- Characters that have a meaning of their own where a scalar could start. -/
def isIndicator (character : Char) : Bool :=
  "-?:,[]\x7b\x7d#&*!|>'\"%@\x60".toList.contains character

def startsPlain (scan : Scan) : Bool :=
  scan.cursor.sees fun character =>
    !(endsWord (some character) || isIndicator character) ||
      (!endsWord (scan.cursor.peekAt 1) &&
        (character = '-' || (!scan.inFlow && (character = '?' || character = ':'))))

def standsAlone (scan : Scan) : Bool :=
  scan.inFlow || endsWord (scan.cursor.peekAt 1)

def next (character : Char) (scan : Scan) : Except ConfigFault Scan := do
  let atStart := scan.cursor.column = 0
  if atStart && character = '%' then scan.directive
  else if atStart && scan.cursor.seesWord '-' then scan.separator .documentStart 3
  else if atStart && scan.cursor.seesWord '.' then scan.separator .documentEnd 3
  else if character = '[' then scan.flowStart .flowSequenceStart
  else if character = '\x7b' then scan.flowStart .flowMappingStart
  else if character = ']' then scan.flowEnd .flowSequenceEnd
  else if character = '\x7d' then scan.flowEnd .flowMappingEnd
  else if character = ',' then scan.flowEntry
  else if character = '-' && endsWord (scan.cursor.peekAt 1) then scan.blockEntry
  else if character = '?' && scan.standsAlone then scan.explicitKey
  else if character = ':' && scan.standsAlone then scan.value
  else if character = '*' then
    let (name, behind) ← anchorName scan.cursor
    scan.property (.alias name) behind
  else if character = '&' then
    let (name, behind) ← anchorName scan.cursor
    scan.property (.anchor name) behind
  else if character = '!' then
    let (token, behind) ← tagToken scan.cursor
    scan.property token behind
  else if character = '|' && !scan.inFlow then scan.block false
  else if character = '>' && !scan.inFlow then scan.block true
  else if character = '\'' || character = '"' then scan.quoted character
  else if scan.startsPlain then scan.plain
  else throw .malformed

def step (scan : Scan) : Except ConfigFault (Scan × Bool) := do
  let reached := scan.skipMark
  let started ← (reached.skipBlank (reached.cursor.rest.length + 1)).forgetStale
  let unwound := started.unwind started.cursor.column
  match unwound.cursor.peek with
  | none =>
      let ended ← unwound.separator .streamEnd 0
      return (ended, true)
  | some character =>
      let further ← unwound.next character
      return (further, false)

/-- All tokens. Where the text cannot be read further, a flaw stands last. -/
def all : Nat → Scan → List Token
  | 0, scan => (scan.emit (.flaw .malformed)).tokens.reverse
  | fuel + 1, scan =>
      match scan.step with
      | .error fault => (scan.emit (.flaw fault)).tokens.reverse
      | .ok (ended, true) => ended.tokens.reverse
      | .ok (further, false) => all fuel further

end Scan

def tokens (text : List Char) : List Token :=
  Scan.all (text.length + 1) { cursor := { rest := text } }

end Lisplet.Config
