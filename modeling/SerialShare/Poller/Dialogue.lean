import SerialShare.Log

/-!
# Dialogues with a device

A dialogue says what to do next with a device, up to a result: wait, send bytes, collect what
arrived, publish a status, record an event.  What follows a collection depends on the bytes
collected, and nothing else does.  A dialogue says nothing about failures: whoever carries it out
stops at the first one.
-/

namespace SerialShare

/-- What to do with a device, up to a result. -/
inductive Dialogue (Result : Type) where
  /-- There is nothing more to do. -/
  | done (result : Result)
  /-- Let some time pass. -/
  | wait (milliseconds : UInt64) (next : Dialogue Result)
  /-- Put bytes on the wire. -/
  | send (bytes : Bytes) (next : Dialogue Result)
  /-- Take whatever has arrived. -/
  | collect (next : Bytes → Dialogue Result)
  /-- Make a status the latest one. -/
  | publish (status : Status) (next : Dialogue Result)
  /-- Record an event. -/
  | record (event : Log.Event) (next : Dialogue Result)

namespace Dialogue

variable {Result Final : Type}

/-- Go on with another dialogue once the result is there. -/
def bind : Dialogue Result → (Result → Dialogue Final) → Dialogue Final
  | done result, continuation => continuation result
  | wait milliseconds next, continuation => wait milliseconds (next.bind continuation)
  | send bytes next, continuation => send bytes (next.bind continuation)
  | collect next, continuation => collect fun bytes => (next bytes).bind continuation
  | publish status next, continuation => publish status (next.bind continuation)
  | record event next, continuation => record event (next.bind continuation)

@[simp] theorem bind_done
    (result : Result)
    (continuation : Result → Dialogue Final) :
    (done result).bind continuation = continuation result := rfl

@[simp] theorem bind_wait
    (milliseconds : UInt64)
    (next : Dialogue Result)
    (continuation : Result → Dialogue Final) :
    (wait milliseconds next).bind continuation = wait milliseconds (next.bind continuation) := rfl

@[simp] theorem bind_send
    (bytes : Bytes)
    (next : Dialogue Result)
    (continuation : Result → Dialogue Final) :
    (send bytes next).bind continuation = send bytes (next.bind continuation) := rfl

@[simp] theorem bind_collect
    (next : Bytes → Dialogue Result)
    (continuation : Result → Dialogue Final) :
    (collect next).bind continuation = collect fun bytes => (next bytes).bind continuation := rfl

@[simp] theorem bind_publish
    (status : Status)
    (next : Dialogue Result)
    (continuation : Result → Dialogue Final) :
    (publish status next).bind continuation = publish status (next.bind continuation) := rfl

@[simp] theorem bind_record
    (event : Log.Event)
    (next : Dialogue Result)
    (continuation : Result → Dialogue Final) :
    (record event next).bind continuation = record event (next.bind continuation) := rfl

end Dialogue
end SerialShare
