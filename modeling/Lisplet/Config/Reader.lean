import Lisplet.Config.Node
import Lisplet.Config.Scalar

/-!
# Reading configuration text

What a text means: the setting that its node stands for. Collections are no
keys, and a merged mapping gives way to what its mapping says itself.
-/

namespace Lisplet.Config

def isAllowed (character : Char) : Bool :=
  let code := character.toNat
  code = 0x9 || code = 0xA || code = 0xD || (0x20 ≤ code && code ≤ 0x7E) ||
    code = 0x85 || (0xA0 ≤ code && code ≤ 0xD7FF) ||
    (0xE000 ≤ code && code ≤ 0xFFFD) || 0x10000 ≤ code

def formNames : List (String × Form) :=
  [("str", .text), ("null", .null), ("bool", .boolean), ("int", .integer),
    ("float", .float), ("timestamp", .moment), ("merge", .merge), ("value", .default)]

def formOfTag? (address : String) : Option Form :=
  (formNames.find? fun entry => Node.standardSpace ++ entry.1 = address).map Prod.snd

/-- The form of a scalar: what its tag says, or what its text looks like if it
is plain. A bare exclamation mark makes any scalar plain. -/
def scalarForm (tag : Option String) (plain : Bool) (text : String) :
    Except ConfigFault Form :=
  match tag with
  | none => return if plain then formOf text.toList else .text
  | some "!" => return formOf text.toList
  | some address =>
      match formOfTag? address with
      | some form => return form
      | none => throw .malformed

/-- A collection has no tag of another kind. -/
def hasKind (kind : String) (tag : Option String) : Bool :=
  tag.all fun address => address = "!" || address = Node.standardSpace ++ kind

def isMergeKey : Node → Bool
  | .scalar none true "<<" => true
  | _ => false

/-- The entries that the value of a merge key brings: those of a mapping, or of
a list of mappings, where the earlier ones win. -/
def mergedEntries (flatten : Node → Except ConfigFault (List (Node × Node))) :
    Node → Except ConfigFault (List (Node × Node))
  | .mapping tag entries => flatten (.mapping tag entries)
  | .sequence _ items => do
      let parts ← items.mapM flatten
      return parts.reverse.flatten
  | .scalar .. => throw .malformed

/-- The entries of a mapping, those that it merges standing first. -/
def flattened : Nat → Node → Except ConfigFault (List (Node × Node))
  | 0, _ => throw .malformed
  | fuel + 1, .mapping _ entries => do
      let merged ←
        (entries.filter fun entry => isMergeKey entry.1).mapM fun entry =>
          mergedEntries (flattened fuel) entry.2
      return merged.flatten ++ entries.filter fun entry => !isMergeKey entry.1
  | _ + 1, _ => throw .malformed

/-- A scalar as a key: there the sign for a default is text. -/
def keySetting : Node → Except ConfigFault Setting
  | .scalar tag plain text => do
      let form ← scalarForm tag plain text
      scalarSetting (if form = .default then .text else form) text.toList
  | _ => throw .malformed

mutual

def settingOf : Nat → Node → Except ConfigFault Setting
  | 0, _ => throw .malformed
  | _ + 1, .scalar tag plain text => do
      let form ← scalarForm tag plain text
      scalarSetting form text.toList
  | fuel + 1, .sequence tag items =>
      if hasKind "seq" tag then .list <$> settingsOf fuel items
      else throw .malformed
  | fuel + 1, .mapping tag entries =>
      if hasKind "map" tag then do
        let all ← flattened fuel (.mapping tag entries)
        .mapping <$> entriesOf fuel all []
      else throw .malformed

def settingsOf : Nat → List Node → Except ConfigFault (List Setting)
  | 0, _ => throw .malformed
  | _ + 1, [] => return []
  | fuel + 1, node :: rest => do
      let setting ← settingOf fuel node
      let settings ← settingsOf fuel rest
      return setting :: settings

def entriesOf : Nat → List (Node × Node) → Settings → Except ConfigFault Settings
  | 0, _, _ => throw .malformed
  | _ + 1, [], settings => return settings
  | fuel + 1, (key, value) :: rest, settings => do
      let keyRead ← keySetting key
      let valueRead ← settingOf fuel value
      entriesOf fuel rest (Settings.put keyRead valueRead settings)

end

def read (text : String) : Except ConfigFault Setting := do
  let characters := text.toList
  if !characters.all isAllowed then throw .malformed
  else
    let found := tokens characters
    match ← Node.ofTokens found with
    | none => return .null
    | some node => settingOf (found.length * found.length + 8) node

end Lisplet.Config
