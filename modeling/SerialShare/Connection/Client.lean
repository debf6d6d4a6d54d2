import SerialShare.Connection.Channel

/-!
# Asking for replies

A client that asks one request at a time.  It sends the line of a request completely, and then takes
the next reply line for the answer.  Both sides keep count of lines only, so a request that holds
newlines itself is answered by its first line, and the replies to the others are what later
requests find first.

A session is such a client and its connection.  Every move of it is one small step of one side, so
that a session is any interleaving of them.  `query` is one such interleaving.
-/

namespace SerialShare

/-- Asks requests and takes replies. -/
structure Client where
  /-- The part of a request that is still to be sent. -/
  outgoing : Bytes
  /-- Cuts replies off the buffer. -/
  splitter : Lines.Splitter
  /-- What has been received and not yet been cut into replies. -/
  buffer : Bytes
  /-- Whether the buffer may hold a reply that has not been taken. -/
  looking : Bool
  /-- Whether nothing more will be received. -/
  inputEnded : Bool

namespace Client

/-- A client that has asked nothing yet. -/
def new : Client :=
  { outgoing := []
    splitter := .new Lines.defaultLimit
    buffer := []
    looking := false
    inputEnded := false }

/-- What a request fails with when the service closes the connection before its reply. -/
def closed : IoFault := ⟨.unexpectedEof, "Server closed the connection"⟩

/-- Ask a request. -/
def ask (client : Client) (request : String) : Client :=
  { client with outgoing := client.outgoing ++ Lines.encode request, looking := true }

/-- Look for a reply in the buffer.  The limit of a client leaves room for one byte more, so that
nothing overflows; if it did, the client would be stuck where it is. -/
def look (client : Client) : Option (Except IoFault String) × Client :=
  let reading :=
    if client.inputEnded then client.splitter.decodeEnd client.buffer
    else client.splitter.decode client.buffer
  let client := { client with splitter := reading.splitter, buffer := reading.buffer }
  match reading.result with
  | .line reply => (some (.ok reply), client)
  | .nothing =>
    if client.inputEnded then (some (.error closed), client)
    else (none, { client with looking := false })
  | .refused fault => (some (.error fault), client)
  | .overflow => (none, client)

end Client

/-- A client and its connection. -/
structure Session where
  /-- The client. -/
  client : Client
  /-- Its connection. -/
  connection : Connection

namespace Session

/-- A fresh session. -/
def new (capacity : Nat) : Session := ⟨.new, .new capacity⟩

/-- What one side can do. -/
inductive Move where
  /-- The client sends at most a number of bytes. -/
  | send (most : Nat)
  /-- The handler makes a step, receiving at most a number of bytes. -/
  | serve (most : Nat)
  /-- The client receives at most a number of bytes. -/
  | receive (most : Nat)
  /-- The client looks for a reply. -/
  | look
  deriving DecidableEq, Repr

/-- The client sends at most a number of bytes.  When the service has closed the connection, the
bytes are lost. -/
def send (session : Session) (most : Nat) : Session :=
  if session.connection.open? then
    let (count, connection) := session.connection.offer (session.client.outgoing.take most)
    { connection
      client := { session.client with outgoing := session.client.outgoing.drop count } }
  else { session with client := { session.client with outgoing := [] } }

/-- The client receives at most a number of bytes, or learns that there will be no more. -/
def receive (session : Session) (most : Nat) : Session :=
  if session.connection.replies.isEmpty then
    if session.connection.handler.ending.isSome then
      { session with client := { session.client with inputEnded := true, looking := true } }
    else session
  else
    let (chunk, connection) := session.connection.collect most
    { connection
      client := { session.client with buffer := session.client.buffer ++ chunk, looking := true } }

/-- Make one move.  The client sends all of a request before it does anything else, and receives
only when there is nothing to look for.  Also gives the answer to the request if the client found
it. -/
def move (session : Session) (snapshot : Snapshot) :
    Move → Option (Except IoFault String) × Session
  | .send most => (none, session.send most)
  | .serve most =>
    (none, { session with connection := (session.connection.serve most snapshot).1 })
  | .receive most =>
    if session.client.outgoing.isEmpty && !session.client.looking then (none, session.receive most)
    else (none, session)
  | .look =>
    if session.client.outgoing.isEmpty && session.client.looking then
      let (answer, client) := session.client.look
      (answer, { session with client })
    else (none, session)

/-- Make moves up to the first answer. -/
def moves (snapshot : Snapshot) :
    Session → List Move → Option (Except IoFault String) × Session
  | session, [] => (none, session)
  | session, move :: rest =>
    match session.move snapshot move with
    | (some answer, session) => (some answer, session)
    | (none, session) => moves snapshot session rest

/-- The moves of one round: both sides get their turn. -/
def round (capacity : Nat) : List Move :=
  [.send capacity, .serve capacity, .look, .receive capacity]

/-- Let both sides move for a number of rounds, up to an answer. -/
def await (snapshot : Snapshot) : Nat → Session → Option (Except IoFault String) × Session
  | 0, session => (none, session)
  | rounds + 1, session =>
    match session.moves snapshot (round session.connection.capacity) with
    | (some answer, session) => (some answer, session)
    | (none, session) => await snapshot rounds session

/-- Ask a request, and let both sides move for a number of rounds, or until it is answered. -/
def query (session : Session) (snapshot : Snapshot) (request : String) :
    Option (Except IoFault String) × Session :=
  let session := { session with client := session.client.ask request }
  session.await snapshot
    (session.connection.roundsFor session.client.outgoing + session.connection.replies.length)

/-- Ask requests one after the other, while the snapshot stays. -/
def queries (snapshot : Snapshot) : Session → List String → List (Option (Except IoFault String))
  | _, [] => []
  | session, request :: rest =>
    let (answer, session) := session.query snapshot request
    answer :: queries snapshot session rest

end Session
end SerialShare
