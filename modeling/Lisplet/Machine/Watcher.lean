import Lisplet.Config.Setting
import Lisplet.Machine.Trace
import Lisplet.Text.Blank

/-!
# Watching a trace

A buffer keeps the messages of a trace, all of them or only the latest; a stream
writes each on a line.
-/

namespace Lisplet

/-- Messages, the oldest first, and how many are kept at most. -/
structure TraceBuffer where
  limit : Option Nat := none
  messages : Array String := #[]

inductive LimitFault where
  | notInteger
  | outOfRange
  | negative
  deriving DecidableEq

def LimitFault.label : LimitFault → String
  | .notInteger => "TypeError"
  | .outOfRange => "OverflowError"
  | .negative => "ValueError"

def LimitFault.message : LimitFault → String
  | .notInteger => "an integer is required"
  | .outOfRange => "Python int too large to convert to C ssize_t"
  | .negative => "maxlen must be non-negative"

namespace TraceBuffer

/-- Limits lie within signed words. -/
def limitBound : Int := Int.pow 2 63

def ofLimit (limit : Int) : Except LimitFault TraceBuffer :=
  if limitBound ≤ limit || limit < -limitBound then .error .outOfRange
  else if limit < 0 then .error .negative
  else .ok { limit := some limit.toNat }

/-- A buffer as a setting asks for it; null asks for no limit. -/
def ofSetting : Setting → Except LimitFault TraceBuffer
  | .null => .ok {}
  | .boolean value => ofLimit value.toInt
  | .integer value => ofLimit value
  | _ => .error .notInteger

/-- Keeps a message; the oldest goes if there is no room for it. -/
def record (buffer : TraceBuffer) (message : String) : TraceBuffer :=
  let messages := buffer.messages.push message
  match buffer.limit with
  | none => { buffer with messages }
  | some limit =>
      if limit < messages.size then
        { buffer with messages := messages.extract (messages.size - limit) messages.size }
      else { buffer with messages }

def recent (buffer : TraceBuffer) (entries : List TraceEntry) : List TraceEntry :=
  match buffer.limit with
  | none => entries
  | some limit => entries.drop (entries.length - limit)

/-- Keeps the messages of several entries. Those that would have to go again are
passed over. -/
def recordAll (buffer : TraceBuffer) (entries : List TraceEntry) : TraceBuffer :=
  (buffer.recent entries).foldl (fun kept entry => kept.record entry.message) buffer

def traces (buffer : TraceBuffer) : List String :=
  buffer.messages.toList

/-- A message without its mark and without blanks around it. -/
def stepText (message : String) : String :=
  let characters := message.toList
  let mark := traceMark.toList
  if mark.isPrefixOf characters then
    Text.trim (String.ofList (characters.drop mark.length))
  else Text.trim message

def steps (buffer : TraceBuffer) : List String :=
  buffer.traces.map stepText

def clear (buffer : TraceBuffer) : TraceBuffer :=
  { buffer with messages := #[] }

end TraceBuffer

inductive Watcher where
  /-- Nobody in particular: they go to standard output. -/
  | output
  | buffer (buffer : TraceBuffer)
  | stream
  /-- The machine, which keeps the trace in a file. -/
  | file

end Lisplet
