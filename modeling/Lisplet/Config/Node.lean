import Lisplet.Config.Token

/-!
# Nodes of a configuration

The tree that the tokens of one document spell. An alias stands for the node
that bears its anchor.
-/

namespace Lisplet.Config

/-- A tag is the address that was written, if any was. -/
inductive Node where
  | scalar (tag : Option String) (plain : Bool) (text : String)
  | sequence (tag : Option String) (items : List Node)
  | mapping (tag : Option String) (entries : List (Node × Node))

structure Reading where
  tokens : List Token
  anchors : List (String × Node) := []
  /-- Names of anchors whose nodes are not complete. -/
  unfinished : List String := []
  handles : List (String × String) := []

abbrev NodeM := StateT Reading (Except ConfigFault)

namespace Node

def empty : Node := .scalar none true ""

/-- The next token, which stays. A flaw ends the reading. -/
def peek : NodeM Token := do
  match (← get).tokens with
  | [] => throw .malformed
  | .flaw fault :: _ => throw fault
  | token :: _ => return token

def skip : NodeM Unit :=
  modify fun reading => { reading with tokens := reading.tokens.tail }

structure Properties where
  anchor : Option String := none
  tag : Option (Option String × String) := none

def properties : NodeM Properties := do
  match ← peek with
  | .anchor name =>
      skip
      match ← peek with
      | .tag handle suffix =>
          skip
          return ⟨some name, some (handle, suffix)⟩
      | _ => return ⟨some name, none⟩
  | .tag handle suffix =>
      skip
      match ← peek with
      | .anchor name =>
          skip
          return ⟨some name, some (handle, suffix)⟩
      | _ => return ⟨none, some (handle, suffix)⟩
  | _ => return {}

/-- The address of a tag: what its handle stands for, and its suffix. -/
def address : Option (Option String × String) → NodeM (Option String)
  | none => return none
  | some (none, suffix) => return some suffix
  | some (some handle, suffix) => do
      match (← get).handles.lookup handle with
      | some target => return some (target ++ suffix)
      | none => throw .malformed

def openAnchor : Option String → NodeM Unit
  | none => return
  | some name => do
      let reading ← get
      if (reading.anchors.lookup name).isSome || reading.unfinished.contains name then
        throw .malformed
      else set { reading with unfinished := name :: reading.unfinished }

def closeAnchor (node : Node) : Option String → NodeM Node
  | none => return node
  | some name => do
      modify fun reading => { reading with
        anchors := (name, node) :: reading.anchors
        unfinished := reading.unfinished.filter (· != name) }
      return node

def ofAlias (name : String) : NodeM Node := do
  match (← get).anchors.lookup name with
  | some node => return node
  | none => throw .malformed

def endsValue : Token → Bool
  | .key => true
  | .value => true
  | .blockEnd => true
  | _ => false

def endsDash : Token → Bool
  | .blockEntry => true
  | .blockEnd => true
  | _ => false

def endsBareDash (token : Token) : Bool :=
  endsDash token || endsValue token

def endsFlowValue : Token → Bool
  | .flowEntry => true
  | .flowSequenceEnd => true
  | .flowMappingEnd => true
  | _ => false

def endsFlowKey : Token → Bool
  | .value => true
  | token => endsFlowValue token

inductive Place where
  | flow
  | block
  /-- Behind a key, where a sequence needs no indentation. -/
  | blockOrDashes
  deriving DecidableEq

mutual

def read (place : Place) : Nat → NodeM Node
  | 0 => throw .malformed
  | fuel + 1 => do
      match ← peek with
      | .alias name =>
          skip
          ofAlias name
      | _ =>
          let found ← properties
          let tag ← address found.tag
          openAnchor found.anchor
          let node ← content place tag (found.anchor.isSome || tag.isSome) fuel
          closeAnchor node found.anchor

/-- A node behind its properties. It may be omitted if it has some. -/
def content (place : Place) (tag : Option String) (optional : Bool) : Nat → NodeM Node
  | 0 => throw .malformed
  | fuel + 1 => do
      let inBlock := place != .flow
      match ← peek with
      | .blockEntry =>
          if place = .blockOrDashes then
            let items ← bareDashes fuel
            return .sequence tag items
          else if optional then return .scalar tag true ""
          else throw .malformed
      | .scalar text plain =>
          skip
          return .scalar tag plain text
      | .flowSequenceStart =>
          skip
          let items ← flowItems true fuel
          return .sequence tag items
      | .flowMappingStart =>
          skip
          let entries ← flowEntries true fuel
          return .mapping tag entries
      | .blockSequenceStart =>
          if inBlock then
            skip
            let items ← dashes fuel
            return .sequence tag items
          else if optional then return .scalar tag true ""
          else throw .malformed
      | .blockMappingStart =>
          if inBlock then
            skip
            let entries ← blockEntries fuel
            return .mapping tag entries
          else if optional then return .scalar tag true ""
          else throw .malformed
      | _ => if optional then return .scalar tag true "" else throw .malformed

/-- A node that is omitted where one of the given tokens stands. -/
def readUnless (ends : Token → Bool) (place : Place) : Nat → NodeM Node
  | 0 => throw .malformed
  | fuel + 1 => do
      if ends (← peek) then return empty else read place fuel

def dashes : Nat → NodeM (List Node)
  | 0 => throw .malformed
  | fuel + 1 => do
      match ← peek with
      | .blockEntry =>
          skip
          let item ← readUnless endsDash .block fuel
          let items ← dashes fuel
          return item :: items
      | .blockEnd =>
          skip
          return []
      | _ => throw .malformed

def bareDashes : Nat → NodeM (List Node)
  | 0 => throw .malformed
  | fuel + 1 => do
      match ← peek with
      | .blockEntry =>
          skip
          let item ← readUnless endsBareDash .block fuel
          let items ← bareDashes fuel
          return item :: items
      | _ => return []

def valueUnless (ends : Token → Bool) (place : Place) : Nat → NodeM Node
  | 0 => throw .malformed
  | fuel + 1 => do
      match ← peek with
      | .value =>
          skip
          readUnless ends place fuel
      | _ => return empty

def blockEntries : Nat → NodeM (List (Node × Node))
  | 0 => throw .malformed
  | fuel + 1 => do
      match ← peek with
      | .key =>
          skip
          let key ← readUnless endsValue .blockOrDashes fuel
          let value ← valueUnless endsValue .blockOrDashes fuel
          let entries ← blockEntries fuel
          return (key, value) :: entries
      | .blockEnd =>
          skip
          return []
      | _ => throw .malformed

/-- The items between brackets. A pair among them is a mapping of its own. -/
def flowItems (first : Bool) : Nat → NodeM (List Node)
  | 0 => throw .malformed
  | fuel + 1 => do
      match ← peek, first with
      | .flowSequenceEnd, _ =>
          skip
          return []
      | .flowEntry, false => do
          skip
          flowItems true fuel
      | .flowEntry, true => throw .malformed
      | .key, true =>
          skip
          let key ← readUnless endsFlowKey .flow fuel
          let value ← valueUnless endsFlowValue .flow fuel
          let items ← flowItems false fuel
          return .mapping none [(key, value)] :: items
      | _, true =>
          let item ← read .flow fuel
          let items ← flowItems false fuel
          return item :: items
      | _, false => throw .malformed

/-- The entries between braces. A key may lack its value. -/
def flowEntries (first : Bool) : Nat → NodeM (List (Node × Node))
  | 0 => throw .malformed
  | fuel + 1 => do
      match ← peek, first with
      | .flowMappingEnd, _ =>
          skip
          return []
      | .flowEntry, false => do
          skip
          flowEntries true fuel
      | .flowEntry, true => throw .malformed
      | .key, true =>
          skip
          let key ← readUnless endsFlowKey .flow fuel
          let value ← valueUnless endsFlowValue .flow fuel
          let entries ← flowEntries false fuel
          return (key, value) :: entries
      | _, true =>
          let key ← read .flow fuel
          let entries ← flowEntries false fuel
          return (key, empty) :: entries
      | _, false => throw .malformed

end

/-! ## Documents -/

def standardSpace : String := "tag:yaml.org,2002:"

def standardHandles : List (String × String) :=
  [("!", "!"), ("!!", standardSpace)]

/-- The directives of a document. A version is told once, and is the first. -/
def directives : Nat → Bool → NodeM Unit
  | 0, _ => throw .malformed
  | fuel + 1, versioned => do
      match ← peek with
      | .directive (.version major) =>
          skip
          if versioned || major ≠ 1 then throw .malformed else directives fuel true
      | .directive (.tag handle target) => do
          skip
          let reading ← get
          if (reading.handles.lookup handle).isSome then throw .malformed
          else
            set { reading with handles := (handle, target) :: reading.handles }
            directives fuel versioned
      | .directive .other =>
          skip
          directives fuel versioned
      | _ => return

def startedDocument (fuel : Nat) : NodeM Node := do
  directives fuel false
  match ← peek with
  | .documentStart => do
      skip
      modify fun reading => { reading with
        handles := reading.handles ++ standardHandles }
      match ← peek with
      | .directive _ => return empty
      | .documentStart => return empty
      | .documentEnd => return empty
      | .streamEnd => return empty
      | _ => read .block fuel
  | _ => throw .malformed

def finish : Nat → NodeM Unit
  | 0 => throw .malformed
  | fuel + 1 => do
      match ← peek with
      | .documentEnd =>
          skip
          finish fuel
      | .streamEnd => return
      | _ => throw .malformed

def document (fuel : Nat) : NodeM (Option Node) := do
  match ← peek with
  | .streamEnd => return none
  | .directive _ => do
      let node ← startedDocument fuel
      finish fuel
      return some node
  | .documentStart => do
      let node ← startedDocument fuel
      finish fuel
      return some node
  | _ => do
      modify fun reading => { reading with handles := standardHandles }
      let node ← read .block fuel
      finish fuel
      return some node

/-- The node that tokens spell. Between two tokens no more than a few calls are
made, so the fuel is enough. -/
def ofTokens (tokens : List Token) : Except ConfigFault (Option Node) :=
  (document (4 * tokens.length + 8)).run' { tokens }

end Node

end Lisplet.Config
