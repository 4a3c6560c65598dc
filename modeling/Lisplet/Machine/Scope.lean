import Lisplet.Value.Basic

/-!
# Scopes

A scope binds names and may lie inside another scope, its parent. Scopes are
numbered as they are made, and a parent has to exist first, so following parents
goes down through the numbers and comes to an end.
-/

namespace Lisplet

/-- Names with their values, in the order of their first binding. -/
abbrev Bindings := List (String × Value)

namespace Bindings

def get? (bindings : Bindings) (name : String) : Option Value :=
  bindings.lookup name

/-- Binding a name again replaces the value and keeps the place. -/
def put (name : String) (value : Value) : Bindings → Bindings
  | [] => [(name, value)]
  | binding :: rest =>
      if binding.1 = name then (name, value) :: rest
      else binding :: put name value rest

def putAll (bindings : Bindings) (added : List (String × Value)) : Bindings :=
  added.foldl (fun bound pair => bound.put pair.1 pair.2) bindings

def names (bindings : Bindings) : List String :=
  bindings.map Prod.fst

end Bindings

structure Scope where
  parent : Option ScopeId
  location : String
  bindings : Bindings := []

def globalLocation : String := "<global>"

structure Scopes where
  table : Array Scope := #[]

namespace Scopes

def size (scopes : Scopes) : Nat := scopes.table.size

def get? (scopes : Scopes) (scope : ScopeId) : Option Scope :=
  scopes.table[scope]?

/-- Makes a scope with its first bindings; its number is the old size. -/
def make (scopes : Scopes) (parent : Option ScopeId) (location : String)
    (added : List (String × Value)) : Scopes :=
  ⟨scopes.table.push { parent, location, bindings := Bindings.putAll [] added }⟩

def define (scopes : Scopes) (scope : ScopeId) (name : String) (value : Value) :
    Scopes :=
  ⟨scopes.table.modify scope fun old =>
    { old with bindings := old.bindings.put name value }⟩

def defineAll (scopes : Scopes) (scope : ScopeId) (added : List (String × Value)) :
    Scopes :=
  ⟨scopes.table.modify scope fun old =>
    { old with bindings := old.bindings.putAll added }⟩

def lookup? (scopes : Scopes) (scope : ScopeId) (name : String) : Option Value :=
  match scopes.get? scope with
  | none => none
  | some found =>
      match found.bindings.get? name with
      | some value => some value
      | none =>
          match found.parent with
          | none => none
          | some parent =>
              if parent < scope then scopes.lookup? parent name else none
  termination_by scope

def stackTrace (scopes : Scopes) (scope : ScopeId) : List String :=
  match scopes.get? scope with
  | none => []
  | some found =>
      match found.parent with
      | none => [found.location]
      | some parent =>
          if parent < scope then found.location :: scopes.stackTrace parent
          else [found.location]
  termination_by scope

def location (scopes : Scopes) (scope : ScopeId) : String :=
  ((scopes.get? scope).map Scope.location).getD ""

def hasBinding (scopes : Scopes) (scope : ScopeId) (name : String) : Bool :=
  (scopes.lookup? scope name).isSome

def inspect (scopes : Scopes) (scope : ScopeId) : String :=
  match scopes.get? scope with
  | none => ""
  | some found =>
      let names := "[" ++ Text.joined ", " (found.bindings.names.map Text.quoted) ++ "]"
      let outer :=
        match found.parent with
        | none => ""
        | some parent => " (parent: " ++ scopes.location parent ++ ")"
      "PLispEnvironment(" ++ found.location ++ ": " ++ names ++ outer ++ ")"

end Scopes

def stackTraceText (locations : List String) : String :=
  Text.joined "\n" (locations.map ("  at " ++ ·))

end Lisplet
