import Lisplet.Pattern.Reader

/-!
# Matching and splitting

Matching goes through the pattern from left to right and hands every way to
match a part on to a continuation; the first way that succeeds to the end wins.
Splitting cuts a text at the matches found from left to right, and puts what the
groups captured between the pieces.
-/

namespace Lisplet

/-- A place in a text: what was just passed, and what is still ahead. -/
structure Cursor where
  position : Nat := 0
  previous : Option Char := none
  rest : List Char
  /-- How many characters are ahead. -/
  ahead : Nat := rest.length

structure MatchState where
  cursor : Cursor
  /-- What the groups captured, the latest first. -/
  captures : List (Nat × List Char) := []

namespace Cursor

def ofText (text : String) : Cursor := { rest := text.toList }

def next? (cursor : Cursor) : Option (Char × Cursor) :=
  match cursor.rest with
  | [] => none
  | character :: rest =>
      some (character, ⟨cursor.position + 1, some character, rest, cursor.ahead - 1⟩)

def upTo (start stop : Cursor) : List Char :=
  start.rest.take (stop.position - start.position)

def isWord (character : Option Char) : Bool :=
  character.any CharacterClass.word.holds

def atTextStart (cursor : Cursor) : Bool :=
  cursor.position == 0

def atTextEnd (cursor : Cursor) : Bool :=
  cursor.rest.isEmpty

def atWordEdge (cursor : Cursor) : Bool :=
  isWord cursor.previous != isWord cursor.rest.head?

/-- An empty text has neither an edge nor an inside of a word. -/
def satisfies (cursor : Cursor) : Anchor → Bool
  | .textStart => cursor.atTextStart
  | .lineEnd => cursor.atTextEnd || cursor.rest == ['\n']
  | .textEnd => cursor.atTextEnd
  | .wordEdge => cursor.atWordEdge
  | .wordInside =>
      !(cursor.atTextStart && cursor.atTextEnd) && !cursor.atWordEdge

/-- The cursor behind a given text, if that text comes next. -/
def past? (cursor : Cursor) : List Char → Option Cursor
  | [] => some cursor
  | expected :: others =>
      match cursor.next? with
      | some (character, behind) =>
          if character = expected then behind.past? others else none
      | none => none

end Cursor

namespace Pattern

abbrev Continuation := MatchState → Option MatchState

def pass (holds : Char → Bool) (proceed : Continuation) (state : MatchState) :
    Option MatchState :=
  match state.cursor.next? with
  | some (character, behind) =>
      if holds character then proceed { state with cursor := behind } else none
  | none => none

/-- Repeats a part. Rounds up to `least` are taken in any case. A further round
is tried unless the last such round started at this very place, so every second
one moves on and the fuel bounds their number. -/
def repeatFrom (body : Continuation → Continuation) (least : Nat)
    (most : Option Nat) (greedy : Bool) (proceed : Continuation) :
    Nat → Nat → Option Nat → Continuation
  | 0, _, _ => fun _ => none
  | fuel + 1, count, last => fun state =>
      if count < least then
        body (repeatFrom body least most greedy proceed fuel (count + 1) last) state
      else
        let here := state.cursor.position
        let mayGoOn := most.all (count < ·) && last != some here
        let goOn := fun (_ : Unit) =>
          if mayGoOn then
            body
              (repeatFrom body least most greedy proceed fuel (count + 1)
                (some here)) state
          else none
        if greedy then (goOn ()).orElse fun _ => proceed state
        else (proceed state).orElse goOn

/-- Rounds that can be needed from a place: the mandatory ones, and a further
one for every place ahead. -/
def rounds (least : Nat) (state : MatchState) : Nat :=
  least + state.cursor.ahead + 2

def run : Pattern → Continuation → Continuation
  | .empty, proceed => proceed
  | .literal expected, proceed => pass (· == expected) proceed
  | .any, proceed => pass (· != '\n') proceed
  | .set negated items, proceed =>
      pass (fun character => items.any (·.holds character) != negated) proceed
  | .anchor condition, proceed => fun state =>
      if state.cursor.satisfies condition then proceed state else none
  | .group none body, proceed => body.run proceed
  | .group (some number) body, proceed => fun state =>
      body.run (fun after =>
        proceed { after with
          captures :=
            (number, state.cursor.upTo after.cursor) :: after.captures }) state
  | .reference number, proceed => fun state =>
      match state.captures.lookup number with
      | some captured =>
          match state.cursor.past? captured with
          | some behind => proceed { state with cursor := behind }
          | none => none
      | none => none
  | .sequence first second, proceed => first.run (second.run proceed)
  | .alternative left right, proceed => fun state =>
      (left.run proceed state).orElse fun _ => right.run proceed state
  | .repeated body least most .greedy, proceed => fun state =>
      repeatFrom body.run least most true proceed (rounds least state) 0 none state
  | .repeated body least most .lazy, proceed => fun state =>
      repeatFrom body.run least most false proceed (rounds least state) 0 none state
  | .repeated body least most .possessive, proceed => fun state =>
      (repeatFrom body.run least most true some (rounds least state) 0 none
        state).bind proceed

/-- A match at a place; one that must advance may not be empty. -/
def matchAt? (pattern : Pattern) (mustAdvance : Bool) (cursor : Cursor) :
    Option MatchState :=
  pattern.run
    (fun state =>
      if mustAdvance && state.cursor.position == cursor.position then none
      else some state)
    { cursor }

/-- The first match at a place or behind it, and where it starts. Only a match
at the place itself has to advance. -/
def searchIn (pattern : Pattern) (mustAdvance : Bool) (position : Nat)
    (previous : Option Char) (ahead : Nat) : List Char → Option (Cursor × MatchState)
  | [] =>
      let cursor : Cursor := ⟨position, previous, [], ahead⟩
      (pattern.matchAt? mustAdvance cursor).map (cursor, ·)
  | character :: rest =>
      let cursor : Cursor := ⟨position, previous, character :: rest, ahead⟩
      match pattern.matchAt? mustAdvance cursor with
      | some found => some (cursor, found)
      | none => pattern.searchIn false (position + 1) (some character) (ahead - 1) rest

def search? (pattern : Pattern) (mustAdvance : Bool) (cursor : Cursor) :
    Option (Cursor × MatchState) :=
  pattern.searchIn mustAdvance cursor.position cursor.previous cursor.ahead cursor.rest

end Pattern

namespace CompiledPattern

/-- What each group captured; nothing for a group that took no part. -/
def capturesOf (compiled : CompiledPattern) (state : MatchState) :
    List (Option String) :=
  (List.range compiled.groups).map fun index =>
    (state.captures.lookup (index + 1)).map String.ofList

/-- The pieces from a place on. A match behind an empty match has to advance, so
no place is cut more than twice and the fuel suffices. -/
def splitFrom (compiled : CompiledPattern) :
    Nat → Bool → Cursor → List (Option String)
  | 0, _, cursor => [some (String.ofList cursor.rest)]
  | fuel + 1, mustAdvance, cursor =>
      match compiled.pattern.search? mustAdvance cursor with
      | none => [some (String.ofList cursor.rest)]
      | some (start, found) =>
          some (String.ofList (cursor.upTo start)) ::
            compiled.capturesOf found ++
            compiled.splitFrom fuel (found.cursor.position == start.position)
              found.cursor

def split (compiled : CompiledPattern) (text : String) : List (Option String) :=
  compiled.splitFrom (2 * text.length + 2) false (Cursor.ofText text)

end CompiledPattern

end Lisplet
