import SerialShare.Connection.Channel
import SerialShare.Poller.Run

/-!
# The service

One poller, and any number of clients who see the statuses it publishes.  Connections are known by
keys.  Nothing a client does reaches the poller or another client: they only share the board, and
clients only look at it.
-/

namespace SerialShare

/-- A link and the waits around each request on it. -/
structure Polling (State : Type) where
  /-- The link to the device. -/
  link : Device.Link State
  /-- The waits. -/
  timing : Timing
  /-- How many rotations to carry out at most while the clock stands still. -/
  standing : Nat

/-- Everything that is running. -/
structure Service (State : Type) where
  /-- How the device is polled, as long as there is a poller at hand. -/
  polling : Option (Polling State)
  /-- The device, the clock and the board. -/
  station : Poller.Station State
  /-- Whether statuses are published by hand, there being no device. -/
  byHand : Bool
  /-- How many bytes can be under way on a connection in each direction. -/
  capacity : Nat
  /-- The connections by their keys, the latest first. -/
  connections : List (Nat × Connection)

/-- What can be asked of the service. -/
inductive Step where
  /-- Do one rotation. -/
  | poll
  /-- Do a single request. -/
  | request (command : Device.Command)
  /-- Poll until the link fails or a number of milliseconds have passed.  The poller is used up. -/
  | run (milliseconds : Nat)
  /-- The same, but polling begins only when there is nothing else to do. -/
  | spawn (milliseconds : Nat)
  /-- Publish a status by hand. -/
  | publish (status : Status)
  /-- A client connects. -/
  | connect (key : Nat)
  /-- A client sends, and receives what it is answered. -/
  | send (key : Nat) (bytes : Bytes)
  /-- A client stops sending, and receives what it is answered. -/
  | close (key : Nat)
  /-- A client goes away. -/
  | drop (key : Nat)
  /-- A client sends what fits, and goes away before the handler moves. -/
  | sendAndDrop (key : Nat) (bytes : Bytes)

/-- What the poller did. -/
structure Progress where
  /-- The time afterwards, in milliseconds. -/
  now : Nat
  /-- What was done on the link. -/
  operations : List Poller.Operation
  /-- What is known of the device afterwards. -/
  snapshot : Snapshot

/-- What a step is answered with. -/
inductive Report where
  /-- A rotation was begun. -/
  | polled (ending : Poller.Ending Outcome) (progress : Progress)
  /-- A request was made. -/
  | requested (ending : Poller.Ending Device.Response) (progress : Progress)
  /-- Polling ended, because the link failed or because the time was up. -/
  | ran (ending : Poller.Ending Empty) (progress : Progress)
  /-- There is no poller at hand. -/
  | noPoller
  /-- A status was published. -/
  | published
  /-- Statuses are not published by hand. -/
  | notByHand
  /-- A client connected. -/
  | connected (key : Nat)
  /-- A client received something, and its handler is in this state. -/
  | conversed (received : Bytes) (handler : Handler)
  /-- A client went away, and its handler is in this state. -/
  | dropped (handler : Handler)
  /-- There is no such connection. -/
  | noConnection

namespace Service

variable {State : Type}

/-- A service that polls a device. -/
def overLink (link : Device.Link State) (device : State) (timing : Timing)
    (standing capacity : Nat) : Service State :=
  { polling := some ⟨link, timing, standing⟩
    station := ⟨device, 0, .empty⟩
    byHand := false
    capacity
    connections := [] }

/-- A service without a device. -/
def withoutDevice (capacity : Nat) : Service Unit :=
  { polling := none
    station := ⟨(), 0, .empty⟩
    byHand := true
    capacity
    connections := [] }

/-- The connection with a key. -/
def connection? (service : Service State) (key : Nat) : Option Connection :=
  service.connections.lookup key

/-- Replace the connection with a key. -/
def setConnection (service : Service State) (key : Nat) (connection : Connection) :
    Service State :=
  { service with
    connections := service.connections.map fun entry =>
      if entry.1 = key then (key, connection) else entry }

/-- The longest wait that the clock of a service can measure, thirty years in milliseconds. -/
def longestWait : Nat := 30 * 365 * 24 * 60 * 60 * 1000

/-- The clock of a service. -/
def clock (deadline : Option Nat) : Poller.Clock := ⟨deadline, some longestWait⟩

/-- What was done while a dialogue was carried out. -/
def progress {Result : Type} (played : Poller.Played State Result) : Progress :=
  ⟨played.station.now, played.operations, played.station.board.latest⟩

/-- Let a client and its handler converse. -/
def converse (service : Service State) (key : Nat) (act : Connection → Connection) (bytes : Bytes)
    (report : Bytes → Handler → Report) : Service State × Report × List Log.Event :=
  match service.connection? key with
  | none => (service, .noConnection, [])
  | some connection =>
    let conversation := (act connection).send service.station.board.latest bytes
    (service.setConnection key conversation.connection,
      report conversation.received conversation.connection.handler, conversation.events)

/-- Poll for a number of milliseconds, and let the poller go. -/
def run (service : Service State) (milliseconds : Nat) :
    Service State × Report × List Log.Event :=
  match service.polling with
  | none => (service, .noPoller, [])
  | some ⟨link, timing, standing⟩ =>
    let clock := clock (some (service.station.now + milliseconds))
    let rotations := clock.rotationsWithin timing standing milliseconds
    let played := Poller.run link timing clock rotations service.station
    ({ service with station := played.station, polling := none },
      .ran played.ending (progress played), played.events)

/-- Let the poller go without a turn. -/
def dismiss (service : Service State) : Service State × Report × List Log.Event :=
  match service.polling with
  | none => (service, .noPoller, [])
  | some _ =>
    let progress : Progress := ⟨service.station.now, [], service.station.board.latest⟩
    ({ service with polling := none }, .ran .interrupted progress, [])

/-- Carry out one step. -/
def perform (service : Service State) : Step → Service State × Report × List Log.Event
  | .poll =>
    match service.polling with
    | none => (service, .noPoller, [])
    | some ⟨link, timing, _⟩ =>
      let played := Poller.play link (clock none) service.station (Poller.rotation timing)
      ({ service with station := played.station },
        .polled played.ending (progress played), played.events)
  | .request command =>
    match service.polling with
    | none => (service, .noPoller, [])
    | some ⟨link, timing, _⟩ =>
      let played :=
        Poller.play link (clock none) service.station (Poller.request timing command)
      ({ service with station := played.station },
        .requested played.ending (progress played), played.events)
  | .run milliseconds => service.run milliseconds
  | .spawn milliseconds => if milliseconds = 0 then service.dismiss else service.run milliseconds
  | .publish status =>
    if service.byHand then
      let station := { service.station with board := service.station.board.publish status }
      ({ service with station }, .published, [])
    else (service, .notByHand, [])
  | .connect key =>
    ({ service with connections := (key, .new service.capacity) :: service.connections },
      .connected key, [])
  | .send key bytes => service.converse key id bytes .conversed
  | .close key => service.converse key Connection.close [] .conversed
  | .drop key => service.converse key Connection.vanish [] fun _ => .dropped
  | .sendAndDrop key bytes =>
    service.converse key (fun connection => (connection.offer bytes).2.vanish) [] fun _ => .dropped

end Service
end SerialShare
