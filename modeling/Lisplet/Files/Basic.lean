import Lisplet.Text.Utf8

/-!
# Files

A tree of files and directories below a working directory, and the rules by which
a relative path is followed in it.
-/

namespace Lisplet

open Text (Bytes)

inductive FileNode where
  | file (content : Bytes)
  | directory
  deriving DecidableEq

inductive FileFault where
  | notFound
  | isDirectory
  | notDirectory
  | nameTooLong
  deriving DecidableEq

def upward : String := ".."

/-- Entries by their path from the working directory; the working directory
itself has none, nor have those above it. -/
structure FileSystem where
  entries : List (List String × FileNode) := []
  deriving DecidableEq

namespace FileSystem

def node? (files : FileSystem) (path : List String) : Option FileNode :=
  if path.all (· = upward) then some .directory else files.entries.lookup path

def putEntry (path : List String) (node : FileNode) :
    List (List String × FileNode) → List (List String × FileNode)
  | [] => [(path, node)]
  | entry :: rest =>
      if entry.1 = path then (path, node) :: rest
      else entry :: putEntry path node rest

def put (files : FileSystem) (path : List String) (node : FileNode) : FileSystem :=
  ⟨putEntry path node files.entries⟩

def nameLimit : Nat := 255

/-- The directory above a directory. Above the working directory there is always
another one. -/
def above (here : List String) : List String :=
  if here.all (· = upward) then here ++ [upward] else here.dropLast

def follow (files : FileSystem) :
    List String → List String → Except FileFault (List String)
  | here, [] => .ok here
  | here, step :: rest =>
      if step = "." then files.follow here rest
      else if step = upward then files.follow (above here) rest
      else if nameLimit < (Text.encodeText step).length then .error .nameTooLong
      else
        match files.node? (here ++ [step]) with
        | some .directory => files.follow (here ++ [step]) rest
        | some (.file _) => .error .notDirectory
        | none => .error .notFound

/-- A path split into the directories to follow, the last name, and whether a
slash stands behind it. -/
structure PathParts where
  directories : List String
  last : String
  slash : Bool

def cutAtSlashes : List Char → List (List Char)
  | [] => [[]]
  | character :: rest =>
      if character = '/' then [] :: cutAtSlashes rest
      else (cutAtSlashes rest).modifyHead (character :: ·)

/-- An empty path names nothing, and absolute paths lie outside. -/
def parts? (path : String) : Option PathParts :=
  let steps := (cutAtSlashes path.toList).map String.ofList
  let names := steps.filter (· ≠ "")
  match names.getLast? with
  | none => none
  | some last =>
      if steps.head? = some "" then none
      else some ⟨names.dropLast, last, steps.getLast? = some ""⟩

def isDots (name : String) : Bool :=
  name = "." || name = upward

def target (files : FileSystem) (parts : PathParts) :
    Except FileFault (List String × Option FileNode) := do
  let here ← files.follow [] parts.directories
  if isDots parts.last then return (here, some .directory)
  else if nameLimit < (Text.encodeText parts.last).length then
    throw .nameTooLong
  else
    let path := here ++ [parts.last]
    return (path, files.node? path)

def pathLimit : Nat := 4096

/-- What is wrong with a path that has no last name: it is empty, or lies
outside, or is the directory above all. -/
def partlessFault (path : String) : FileFault :=
  if !path.isEmpty && path.all (· = '/') then .isDirectory else .notFound

def partsOf (path : String) : Except FileFault PathParts :=
  if pathLimit ≤ (Text.encodeText path).length then .error .nameTooLong
  else
    match parts? path with
    | none => .error (partlessFault path)
    | some parts => .ok parts

def read (files : FileSystem) (path : String) : Except FileFault Bytes := do
  let parts ← partsOf path
  let (_, node) ← files.target parts
  match node with
  | none => throw .notFound
  | some .directory => throw .isDirectory
  | some (.file content) =>
      if parts.slash then throw .notDirectory else return content

/-- Makes a file empty, creating it if it does not exist, and says where it
lies. -/
def truncate (files : FileSystem) (path : String) :
    Except FileFault (List String × FileSystem) := do
  let parts ← partsOf path
  if parts.slash then
    let _ ← files.follow [] parts.directories
    throw .isDirectory
  else
    let (place, node) ← files.target parts
    match node with
    | some .directory => throw .isDirectory
    | _ => return (place, files.put place (.file []))

def hasPath (files : FileSystem) (path : String) : Bool :=
  match files.read path with
  | .ok _ => true
  | .error fault => fault == .isDirectory

/-- The content of the file at a place; nothing is empty. -/
def contentAt (files : FileSystem) (place : List String) : Bytes :=
  match files.node? place with
  | some (.file content) => content
  | _ => []

/-- A new file or directory with all the directories above it. -/
def install (files : FileSystem) (path : List String) (node : FileNode) :
    FileSystem :=
  let above := (List.range (path.length - 1)).map fun count => path.take (count + 1)
  (above.foldl
    (fun tree place =>
      if (tree.node? place).isSome then tree else tree.put place .directory)
    files).put path node

/-- Files below the working directory that are new, or whose content is not what
it was. -/
def changedSince (files before : FileSystem) : List (String × Bytes) :=
  files.entries.filterMap fun (path, node) =>
    match node with
    | .directory => none
    | .file content =>
        if path.head? = some upward || before.node? path = some (.file content) then
          none
        else some (Text.joined "/" path, content)

end FileSystem

end Lisplet
