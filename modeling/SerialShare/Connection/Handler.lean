import SerialShare.Lines.Splitter
import SerialShare.Log
import SerialShare.Query.Reply

/-!
# Answering one client

A handler reads request lines and sends one reply line for each, in order.  It takes the next line
only when the reply to the one before is completely sent.  A reply is computed from the snapshot at
the moment the line is taken.  The handler never waits for the device.
-/

namespace SerialShare

/-- Answers the requests of one client. -/
structure Handler where
  /-- Cuts lines off the buffer. -/
  splitter : Lines.Splitter
  /-- What has been received and not yet been cut into lines. -/
  buffer : Bytes
  /-- Whether the buffer may hold a line that has not been taken. -/
  looking : Bool
  /-- Whether the client has finished sending. -/
  inputEnded : Bool
  /-- The part of a reply that is still to be sent. -/
  outgoing : Bytes
  /-- Why the handler is no longer at work, if it is not. -/
  ending : Option (Except IoFault Unit)

namespace Handler

/-- A handler for a client that has just connected. -/
def new : Handler :=
  { splitter := .new Lines.defaultLimit
    buffer := []
    looking := false
    inputEnded := false
    outgoing := []
    ending := none }

/-- What a handler can do next. -/
inductive Phase where
  /-- Nothing, it is no longer at work. -/
  | finished
  /-- Send more of a reply. -/
  | replying
  /-- Look for a line in its buffer. -/
  | looking
  /-- Receive more. -/
  | receiving
  deriving DecidableEq, Repr

/-- What a handler can do next. -/
def phase (handler : Handler) : Phase :=
  if handler.ending.isSome then .finished
  else if !handler.outgoing.isEmpty then .replying
  else if handler.looking then .looking
  else .receiving

/-- Receive some bytes. -/
def receive (handler : Handler) (chunk : Bytes) : Handler :=
  { handler with buffer := handler.buffer ++ chunk, looking := true }

/-- Learn that no more bytes will come. -/
def finishInput (handler : Handler) : Handler :=
  { handler with inputEnded := true, looking := true }

/-- Look for a line in the buffer, and work out the reply to it.  The limit of a handler leaves room
for one byte more, so that nothing overflows; if it did, the handler would be stuck where it is. -/
def look (handler : Handler) (snapshot : Snapshot) : Handler × List Log.Event :=
  let reading :=
    if handler.inputEnded then handler.splitter.decodeEnd handler.buffer
    else handler.splitter.decode handler.buffer
  let handler := { handler with splitter := reading.splitter, buffer := reading.buffer }
  match reading.result with
  | .line request =>
    let reply := Query.reply request snapshot
    ({ handler with outgoing := Lines.encode reply }, [.replying request reply])
  | .nothing =>
    if handler.inputEnded then ({ handler with ending := some (.ok ()) }, [])
    else ({ handler with looking := false }, [])
  | .refused fault => ({ handler with ending := some (.error fault) }, [])
  | .overflow => (handler, [])

/-- Have sent a number of bytes of the reply. -/
def sent (handler : Handler) (count : Nat) : Handler :=
  { handler with outgoing := handler.outgoing.drop count }

/-- What sending to a client that has gone away fails with. -/
def brokenPipe : IoFault := ⟨.brokenPipe, "broken pipe"⟩

/-- Fail to send the reply. -/
def refused (handler : Handler) : Handler :=
  { handler with ending := some (.error brokenPipe) }

/-- The fault that a handler ended with, if it ended with one. -/
def fault? (handler : Handler) : Option Fault :=
  match handler.ending with
  | some (.error source) => some (.clientDisconnected source)
  | _ => none

end Handler
end SerialShare
