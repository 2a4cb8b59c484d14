import PauseWatch.Run.Error
import PauseWatch.Text.Utf8

/-!
# Draining a pipe

A pipe is read chunk by chunk until a read brings nothing, which is its end. A read that was
interrupted is tried again; any other failure ends the draining and keeps what was read before. The
bytes are decoded only when all of them are there, so a character may lie across two chunks.
-/

namespace PauseWatch.Run

/-- What one read of a pipe brings. -/
inductive ReadResult where
  /-- Some bytes, or none at the end of the pipe. -/
  | bytes (chunk : List UInt8)
  /-- Nothing, because the read was interrupted. -/
  | interrupted
  /-- A failure. -/
  | failed (cause : String)
  deriving DecidableEq, Repr

/-- What draining a pipe brings. -/
inductive Drained where
  /-- All bytes up to the end of the pipe. -/
  | whole (bytes : List UInt8)
  /-- The bytes before a failure, and its cause. -/
  | broken (readBefore : List UInt8) (cause : String)
  deriving DecidableEq, Repr

/-- Goes on draining after some chunks, which stand last first; `none` if the reads end before the
pipe does. -/
def drainFrom (chunks : List (List UInt8)) : List ReadResult → Option Drained
  | [] => none
  | .interrupted :: rest => drainFrom chunks rest
  | .failed cause :: _ => some (.broken chunks.reverse.flatten cause)
  | .bytes [] :: _ => some (.whole chunks.reverse.flatten)
  | .bytes (b :: bs) :: rest => drainFrom ((b :: bs) :: chunks) rest

/-- Drains a pipe. A process without the pipe has written nothing. -/
def drain : Option (List ReadResult) → Option Drained
  | none => some (.whole [])
  | some reads => drainFrom [] reads

/-- The text of a drained pipe, or the failure with the text before it. -/
def Drained.text (pipe : Pipe) : Drained → Except RunError String
  | .whole bytes => .ok (Text.Utf8.decode bytes)
  | .broken readBefore cause =>
    .error (.unreadable pipe cause (Text.Utf8.decode readBefore))

/-- All text that was read from a pipe, whether its end was reached or not. -/
def Drained.salvaged : Drained → String
  | .whole bytes => Text.Utf8.decode bytes
  | .broken readBefore _ => Text.Utf8.decode readBefore

end PauseWatch.Run
