import Lisplet.Files.Basic
import Mathlib.Tactic.Common

/-!
# Paths in a tree of files

A path leads to a place by way of directories alone. So as long as directories stay what
they are, it leads to the same place, whatever is written to files.
-/

namespace Lisplet.FileSystem

section Entries

variable (path : List String) (node : FileNode)

theorem lookup_put_entry (entries : List (List String × FileNode)) (other : List String) :
    (putEntry path node entries).lookup other =
      if other = path then some node else entries.lookup other := by
  induction entries with
  | nil =>
      rw [putEntry, List.lookup_cons, List.lookup_nil]
      by_cases same : other = path
      · simp [same]
      · simp [same, beq_false_of_ne same]
  | cons entry rest ih =>
      obtain ⟨named, old⟩ := entry
      by_cases found : named = path
      · subst found
        rw [putEntry, if_pos rfl, List.lookup_cons, List.lookup_cons]
        by_cases same : other = named
        · simp [same]
        · simp [same, beq_false_of_ne same]
      · rw [putEntry, if_neg found, List.lookup_cons, List.lookup_cons, ih]
        by_cases same : other = named
        · subst same
          simp [found]
        · simp [beq_false_of_ne same]

theorem put_entry_again (first : FileNode) (entries : List (List String × FileNode)) :
    putEntry path node (putEntry path first entries) = putEntry path node entries := by
  induction entries with
  | nil => simp [putEntry]
  | cons entry rest ih =>
      by_cases found : entry.1 = path
      · simp [putEntry, found]
      · simp [putEntry, found, ih]

end Entries

variable {files changed : FileSystem} {path : String} {place : List String}

theorem put_again (files : FileSystem) (place : List String) (first node : FileNode) :
    (files.put place first).put place node = files.put place node := by
  unfold put
  rw [put_entry_again]

theorem node_put_self (node : FileNode) (below : place.all (· = upward) = false) :
    (files.put place node).node? place = some node := by
  simp [node?, put, lookup_put_entry, below]

theorem node_put_other (node : FileNode) {other : List String} (apart : other ≠ place) :
    (files.put place node).node? other = files.node? other := by
  simp [node?, put, lookup_put_entry, apart]

def KeepsDirectories (files changed : FileSystem) : Prop :=
  ∀ place, files.node? place = some .directory → changed.node? place = some .directory

theorem keeps_put {node : FileNode} (file : files.node? place ≠ some .directory) :
    files.KeepsDirectories (files.put place node) := by
  intro other directory
  have apart : other ≠ place := by
    rintro rfl
    exact file directory
  rw [node_put_other node apart, directory]

theorem follow_of_keeps (keeps : files.KeepsDirectories changed) {here there steps : List String}
    (followed : files.follow here steps = .ok there) : changed.follow here steps = .ok there := by
  induction steps generalizing here with
  | nil => exact followed
  | cons step rest ih =>
      unfold follow at followed ⊢
      split_ifs at followed ⊢ with dot up long
      · exact ih followed
      · exact ih followed
      · cases found : files.node? (here ++ [step]) with
        | none => simp [found] at followed
        | some node =>
            cases node with
            | file content => simp [found] at followed
            | directory =>
                rw [found] at followed
                rw [keeps _ found]
                exact ih followed

/-- A path in parts leads to a place: all directories on the way are there, and the last step
is a name. -/
def Leads (files : FileSystem) (parts : PathParts) (place : List String) : Prop :=
  ∃ here, files.follow [] parts.directories = .ok here ∧ isDots parts.last = false ∧
    (Text.encodeText parts.last).length ≤ nameLimit ∧ place = here ++ [parts.last]

/-- A path leads to a place that can hold a file, so no slash stands behind it. -/
def Reaches (files : FileSystem) (path : String) (place : List String) : Prop :=
  ∃ parts, partsOf path = .ok parts ∧ parts.slash = false ∧ files.Leads parts place

theorem Reaches.of_keeps (reaches : files.Reaches path place)
    (keeps : files.KeepsDirectories changed) : changed.Reaches path place := by
  obtain ⟨parts, split, unslashed, here, followed, named, short, same⟩ := reaches
  exact ⟨parts, split, unslashed, here, follow_of_keeps keeps followed, named, short, same⟩

theorem Reaches.unique (reaches : files.Reaches path place) {other : List String}
    (also : files.Reaches path other) : place = other := by
  obtain ⟨parts, split, -, here, followed, -, -, rfl⟩ := reaches
  obtain ⟨others, again, -, there, arrived, -, -, rfl⟩ := also
  cases split.symm.trans again
  cases followed.symm.trans arrived
  rfl

theorem Reaches.below (reaches : files.Reaches path place) :
    place.all (· = upward) = false := by
  obtain ⟨parts, -, -, here, -, named, -, rfl⟩ := reaches
  have other : parts.last ≠ upward := by
    intro last
    simp [isDots, last] at named
  simp [other]

theorem Reaches.put (reaches : files.Reaches path place)
    (file : files.node? place ≠ some .directory) (node : FileNode) :
    (files.put place node).Reaches path place ∧ (files.put place node).node? place = some node :=
  ⟨reaches.of_keeps (keeps_put file), node_put_self node reaches.below⟩

section Target

variable {parts : PathParts} {node : Option FileNode}

theorem Leads.target (leads : files.Leads parts place) :
    files.target parts = .ok (place, files.node? place) := by
  obtain ⟨here, followed, named, short, rfl⟩ := leads
  simp [FileSystem.target, followed, named, Nat.not_lt.mpr short, bind, Except.bind, pure,
    Except.pure]

theorem leads_of_target (found : files.target parts = .ok (place, node))
    (file : node ≠ some .directory) : files.Leads parts place ∧ node = files.node? place := by
  unfold FileSystem.target at found
  cases followed : files.follow [] parts.directories with
  | error fault => simp [followed, bind, Except.bind] at found
  | ok here =>
      simp only [followed, bind, Except.bind] at found
      split_ifs at found with dots long
      · cases found
        exact absurd rfl file
      · cases found
        exact ⟨⟨here, followed, by simpa using dots, Nat.not_lt.mp long, rfl⟩, rfl⟩

end Target

theorem read_of_reaches {content : Text.Bytes} (reaches : files.Reaches path place)
    (present : files.node? place = some (.file content)) : files.read path = .ok content := by
  obtain ⟨parts, split, unslashed, leads⟩ := reaches
  simp [read, split, leads.target, present, unslashed, bind, Except.bind, pure, Except.pure]

theorem truncate_eq_ok_iff {opened : FileSystem} :
    files.truncate path = .ok (place, opened) ↔
      files.Reaches path place ∧ files.node? place ≠ some .directory ∧
        opened = files.put place (.file []) := by
  constructor
  · intro truncated
    unfold truncate at truncated
    cases split : partsOf path with
    | error fault => simp [split, bind, Except.bind] at truncated
    | ok parts =>
        simp only [split, bind, Except.bind] at truncated
        by_cases slash : parts.slash = true
        · simp only [slash, if_true] at truncated
          split at truncated <;> cases truncated
        · rw [if_neg slash] at truncated
          cases found : files.target parts with
          | error fault => simp [found] at truncated
          | ok pair =>
              obtain ⟨there, node⟩ := pair
              simp only [found] at truncated
              split at truncated
              next => cases truncated
              next _ file =>
                cases truncated
                obtain ⟨leads, same⟩ := leads_of_target found file
                exact ⟨⟨parts, split, by simpa using slash, leads⟩, same ▸ file, rfl⟩
  · rintro ⟨⟨parts, split, unslashed, leads⟩, file, rfl⟩
    simp only [truncate, split, bind, Except.bind, unslashed, leads.target, Bool.false_eq_true,
      if_false]
    cases present : files.node? place with
    | none => rfl
    | some node =>
        cases node with
        | file content => rfl
        | directory => exact absurd present file

end Lisplet.FileSystem
