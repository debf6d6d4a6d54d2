import SerialShare.Connection.Handler

/-!
# A client's connection

Bytes travel in order between a client and its handler.  In each direction only a limited number
of them can be under way.  The client may stop sending and go on reading, or go away altogether:
its bytes under way still arrive, and no reply can be sent any more.

Every operation is one small step of one side, so that a conversation is any interleaving of them.
`converse` is one such interleaving: it lets both sides move until neither can.
-/

namespace SerialShare

/-- A client's connection with its handler. -/
structure Connection where
  /-- How many bytes can be under way in each direction. -/
  capacity : Nat
  /-- What the client has sent and the handler has not received. -/
  requests : Bytes
  /-- What the handler has sent and the client has not received. -/
  replies : Bytes
  /-- Whether the client has stopped sending. -/
  clientDone : Bool
  /-- Whether the client has gone away. -/
  clientGone : Bool
  /-- The side of the service. -/
  handler : Handler

namespace Connection

/-- A fresh connection. -/
def new (capacity : Nat) : Connection :=
  { capacity
    requests := []
    replies := []
    clientDone := false
    clientGone := false
    handler := .new }

/-! ## The client's side -/

/-- Whether the client can still send. -/
def open? (connection : Connection) : Bool :=
  !connection.clientDone && !connection.clientGone && connection.handler.ending.isNone

/-- The client sends as much as fits.  Also gives the number of bytes sent. -/
def offer (connection : Connection) (bytes : Bytes) : Nat × Connection :=
  if connection.open? then
    let count := min bytes.length (connection.capacity - connection.requests.length)
    (count, { connection with requests := connection.requests ++ bytes.take count })
  else (0, connection)

/-- The client receives at most a number of bytes. -/
def collect (connection : Connection) (most : Nat) : Bytes × Connection :=
  (connection.replies.take most, { connection with replies := connection.replies.drop most })

/-- The client stops sending. -/
def close (connection : Connection) : Connection :=
  { connection with clientDone := true }

/-- The client goes away. -/
def vanish (connection : Connection) : Connection :=
  { connection with clientGone := true, replies := [] }

/-! ## The handler's side -/

/-- Whether the handler would have to wait. -/
def isIdle (connection : Connection) : Bool :=
  match connection.handler.phase with
  | .finished => true
  | .replying =>
    !connection.clientGone && connection.capacity ≤ connection.replies.length
  | .looking => false
  | .receiving =>
    connection.requests.isEmpty && !connection.clientDone && !connection.clientGone

/-- The handler makes one step, receiving at most a number of bytes if it receives. -/
def serve (connection : Connection) (most : Nat) (snapshot : Snapshot) :
    Connection × List Log.Event :=
  let handler := connection.handler
  match handler.phase with
  | .finished => (connection, [])
  | .replying =>
    if connection.clientGone then ({ connection with handler := handler.refused }, [])
    else
      let count := min handler.outgoing.length (connection.capacity - connection.replies.length)
      ({ connection with
          replies := connection.replies ++ handler.outgoing.take count
          handler := handler.sent count }, [])
  | .looking =>
    let (handler, events) := handler.look snapshot
    ({ connection with handler }, events)
  | .receiving =>
    if !connection.requests.isEmpty then
      ({ connection with
          requests := connection.requests.drop most
          handler := handler.receive (connection.requests.take most) }, [])
    else if connection.clientDone || connection.clientGone then
      ({ connection with handler := handler.finishInput }, [])
    else (connection, [])

/-! ## Conversations -/

/-- What a conversation gives: what the client received, what was recorded, and how the connection
is left. -/
structure Conversation where
  /-- What the client received. -/
  received : Bytes
  /-- What was recorded. -/
  events : List Log.Event
  /-- The connection afterwards. -/
  connection : Connection

/-- Let both sides move for a number of rounds, or until neither can.  In each round the client
receives, sends as much as fits, and the handler makes one step. -/
def converse (snapshot : Snapshot) : Nat → Connection → Bytes → Conversation
  | 0, connection, _ => ⟨[], [], connection⟩
  | rounds + 1, connection, unsent =>
    let (received, connection) := connection.collect connection.capacity
    let (count, connection) := connection.offer unsent
    if connection.isIdle then ⟨received, [], connection⟩
    else
      let (connection, events) := connection.serve connection.capacity snapshot
      let later := converse snapshot rounds connection (unsent.drop count)
      ⟨received ++ later.received, events ++ later.events, later.connection⟩

/-- The rounds a conversation is given: every byte is received once, ends at most one line, and
every line has one reply.  By `send_rests` neither side can move when they are over. -/
def roundsFor (connection : Connection) (unsent : Bytes) : Nat :=
  (connection.handler.outgoing.length + connection.handler.buffer.length +
    connection.requests.length + unsent.length + 2) * (Lines.defaultLimit.toNat + 4)

/-- The client sends bytes and receives replies until nothing moves any more.  Bytes that cannot be
delivered are lost. -/
def send (connection : Connection) (snapshot : Snapshot) (bytes : Bytes) : Conversation :=
  converse snapshot (connection.roundsFor bytes) connection bytes

/-- Let the handler go on until nothing moves any more. -/
def settle (connection : Connection) (snapshot : Snapshot) : Conversation :=
  connection.send snapshot []

end Connection
end SerialShare
