import Lisplet.Files.Basic
import Lisplet.Machine.Trace

/-!
# A trace in a file

Lines of a trace reach their file in portions. They first wait together; what
has waited goes through a smaller store, unless it is larger than that. A file
that is looked at before the trace is closed therefore lacks the latest lines.
The writer keeps its own place in the file, whatever else is written there.
-/

namespace Lisplet

open Text (Bytes)

structure TraceFile where
  place : List String
  /-- How many events were looked at. -/
  seen : Nat := 0
  /-- How many bytes were written. -/
  offset : Nat := 0
  /-- Lines that wait, the latest first, and their bytes. -/
  waiting : List Bytes := []
  waitingSize : Nat := 0
  /-- What the store holds, the latest first. -/
  stored : List Bytes := []
  storedSize : Nat := 0
  /-- What is to be written, the latest first. -/
  ready : List Bytes := []

namespace TraceFile

/-- Lines of more bytes than this do not wait together. -/
def waitingLimit : Nat := 8192

def storeSize : Nat := 4096

def release (file : TraceFile) : TraceFile :=
  let rested := { file with waiting := [], waitingSize := 0 }
  if file.storedSize + file.waitingSize ≤ storeSize && file.waitingSize < storeSize then
    { rested with
      stored := file.waiting ++ file.stored
      storedSize := file.storedSize + file.waitingSize }
  else if storeSize < file.waitingSize then
    { rested with
      ready := file.waiting ++ file.stored ++ file.ready
      stored := []
      storedSize := 0 }
  else
    { rested with
      ready := file.stored ++ file.ready
      stored := file.waiting
      storedSize := file.waitingSize }

def accept (file : TraceFile) (line : Bytes) : TraceFile :=
  let roomy :=
    if waitingLimit < file.waitingSize + line.length then file.release else file
  let joined := { roomy with
    waiting := line :: roomy.waiting
    waitingSize := roomy.waitingSize + line.length }
  if waitingLimit ≤ joined.waitingSize then joined.release else joined

def acceptEvent (file : TraceFile) : Event → TraceFile
  | .display _ => file
  | .trace entry => file.accept (Text.encodeText (streamLine entry.message))

/-- Takes the lines of the events that were not looked at yet. -/
def catchUp (file : TraceFile) (events : Array Event) : TraceFile :=
  { (events.toList.drop file.seen).foldl acceptEvent file with seen := events.size }

/-- A content with bytes written over it from an offset on. A gap before them is
filled with zeros. -/
def overwrite (content : Bytes) (offset : Nat) (bytes : Bytes) : Bytes :=
  content.take offset ++ List.replicate (offset - content.length) 0 ++ bytes ++
    content.drop (offset + bytes.length)

def write (file : TraceFile) (files : FileSystem) : TraceFile × FileSystem :=
  match file.ready with
  | [] => (file, files)
  | _ =>
      let bytes := file.ready.reverse.flatten
      let content := overwrite (files.contentAt file.place) file.offset bytes
      ({ file with ready := [], offset := file.offset + bytes.length },
        files.put file.place (.file content))

def drain (file : TraceFile) : TraceFile :=
  { file with
    waiting := []
    waitingSize := 0
    stored := []
    storedSize := 0
    ready := file.waiting ++ file.stored ++ file.ready }

end TraceFile

end Lisplet
