import SerialShare.Connection.Client
import SerialShare.Snapshot.Store

/-!
# Serving sessions

A board, and the sessions of the clients who look at it.  Sessions are known by keys.
-/

namespace SerialShare

/-- A board and the sessions that are open. -/
structure Server where
  /-- Where statuses are published. -/
  board : Board
  /-- How many bytes can be under way on a connection in each direction. -/
  capacity : Nat
  /-- The sessions by their keys. -/
  sessions : List (Nat × Session)

namespace Server

/-- A server without clients. -/
def new (capacity : Nat) : Server := ⟨.empty, capacity, []⟩

/-- Publish a status. -/
def publish (server : Server) (status : Status) : Server :=
  { server with board := server.board.publish status }

/-- A client connects. -/
def connect (server : Server) (key : Nat) : Server :=
  { server with sessions := (key, .new server.capacity) :: server.sessions }

/-- A client asks a request.  There is no answer if there is no such client, or if it waits in
vain. -/
def query (server : Server) (key : Nat) (request : String) :
    Option (Except IoFault String) × Server :=
  match server.sessions.lookup key with
  | none => (none, server)
  | some session =>
    let (answer, session) := session.query server.board.latest request
    (answer, { server with
      sessions := server.sessions.map fun entry =>
        if entry.1 = key then (key, session) else entry })

/-- A client goes away. -/
def drop (server : Server) (key : Nat) : Server :=
  { server with sessions := server.sessions.filter fun entry => entry.1 ≠ key }

end Server
end SerialShare
