import Lisplet.Proofs.Applications
import Lisplet.Proofs.FileTree

/-!
# Files beside a trace

A trace that is kept in a file goes on being written there, and every look at the files first
lets it catch up. It writes to its own file alone, and once it has caught up there is nothing
left to write.
-/

namespace Lisplet

namespace TraceFile

theorem place_release (file : TraceFile) : file.release.place = file.place := by
  unfold release
  split_ifs <;> rfl

theorem place_release_if (full : Prop) [Decidable full] (file : TraceFile) :
    (if full then file.release else file).place = file.place := by
  split_ifs
  · exact place_release file
  · rfl

theorem place_accept (file : TraceFile) (line : Text.Bytes) :
    (file.accept line).place = file.place := by
  unfold accept
  rw [place_release_if]
  exact place_release_if _ file

theorem place_catch_up (file : TraceFile) (events : Array Event) :
    (file.catchUp events).place = file.place := by
  change ((events.toList.drop file.seen).foldl acceptEvent file).place = file.place
  generalize events.toList.drop file.seen = fresh
  induction fresh generalizing file with
  | nil => rfl
  | cons event rest ih =>
      rw [List.foldl_cons, ih]
      cases event with
      | display text => rfl
      | trace entry => exact place_accept file _

theorem write_cases (file : TraceFile) (files : FileSystem) :
    (file.write files).2 = files ∨
      ∃ content, (file.write files).2 = files.put file.place (.file content) := by
  unfold write
  split
  · exact .inl rfl
  · exact .inr ⟨_, rfl⟩

theorem write_ready (file : TraceFile) (files : FileSystem) : (file.write files).1.ready = [] := by
  unfold write
  split
  next nothing => exact nothing
  next => rfl

theorem write_seen (file : TraceFile) (files : FileSystem) :
    (file.write files).1.seen = file.seen := by
  unfold write
  split <;> rfl

end TraceFile

namespace Machine

variable {machine : Machine} {place : List String}

/-- No event waits for the trace to look at it, nor a line to be written. -/
def CaughtUp (machine : Machine) : Prop :=
  ∀ trace, machine.traceFile = some trace → trace.seen = machine.events.size ∧ trace.ready = []

theorem caught_up_settled (machine : Machine) : machine.settled.CaughtUp := by
  unfold settled
  cases kept : machine.traceFile with
  | none => simp [CaughtUp, kept]
  | some file =>
      intro trace same
      cases same
      exact ⟨TraceFile.write_seen _ _, TraceFile.write_ready _ _⟩

theorem CaughtUp.of_same {later : Machine} (caught : machine.CaughtUp)
    (trace : later.traceFile = machine.traceFile) (events : later.events = machine.events) :
    later.CaughtUp := by
  unfold CaughtUp
  rw [trace, events]
  exact caught

theorem settled_of_caught_up (caught : machine.CaughtUp) : machine.settled = machine := by
  unfold settled
  cases kept : machine.traceFile with
  | none => rfl
  | some file =>
      obtain ⟨seen, nothing⟩ := caught file kept
      have fresh : machine.events.toList.drop file.seen = [] := by
        simp [seen]
      have idle : file.catchUp machine.events = file := by
        rw [TraceFile.catchUp, fresh, ← seen]
        rfl
      simp [idle, TraceFile.write, nothing, ← kept]

theorem settled_in_native (machine : Machine) (site : ScopeId) :
    (machine.inNative site).settled = machine.settled.inNative site := by
  obtain ⟨scopes, files, traceFile⟩ := machine
  cases traceFile <;> rfl

/-- A trace that is kept in a file is kept in another one than that at a place. -/
def TracesElsewhere (machine : Machine) (place : List String) : Prop :=
  ∀ trace, machine.traceFile = some trace →
    trace.place ≠ place ∧ machine.files.node? trace.place ≠ some .directory

theorem TracesElsewhere.of_same {later : Machine}
    (elsewhere : machine.TracesElsewhere place) (files : later.files = machine.files)
    (trace : later.traceFile = machine.traceFile) : later.TracesElsewhere place := by
  unfold TracesElsewhere
  rw [files, trace]
  exact elsewhere

theorem settled_files_cases (machine : Machine) :
    machine.settled.files = machine.files ∨ ∃ trace content, machine.traceFile = some trace ∧
      machine.settled.files = machine.files.put trace.place (.file content) := by
  unfold settled
  cases kept : machine.traceFile with
  | none => exact .inl rfl
  | some file =>
      rcases TraceFile.write_cases (file.catchUp machine.events) machine.files with same | put
      · exact .inl same
      · obtain ⟨content, put⟩ := put
        rw [TraceFile.place_catch_up] at put
        exact .inr ⟨file, content, rfl, put⟩

theorem TracesElsewhere.node_settled (elsewhere : machine.TracesElsewhere place) :
    machine.settled.files.node? place = machine.files.node? place := by
  rcases machine.settled_files_cases with same | ⟨trace, content, kept, put⟩
  · rw [same]
  · rw [put, FileSystem.node_put_other _ (elsewhere trace kept).1.symm]

theorem TracesElsewhere.reaches_settled (elsewhere : machine.TracesElsewhere place)
    {path : String} (reaches : machine.files.Reaches path place) :
    machine.settled.files.Reaches path place := by
  rcases machine.settled_files_cases with same | ⟨trace, content, kept, put⟩
  · rwa [same]
  · rw [put]
    exact reaches.of_keeps (FileSystem.keeps_put (elsewhere trace kept).2)

end Machine

end Lisplet
