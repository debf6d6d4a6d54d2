import SerialShare.Device.Command
import SerialShare.Device.Response
import SerialShare.Duration
import SerialShare.Fault

/-!
# The log

What the service records while it works.  Operations answer with the events they record, in order.
-/

namespace SerialShare
namespace Log

/-- How much attention an event asks for. -/
inductive Level where
  /-- Every single exchange. -/
  | trace
  /-- What a developer looks for. -/
  | debug
  /-- What an operator wants to know. -/
  | info
  /-- Something is not as expected. -/
  | warn
  /-- The service cannot go on. -/
  | error
  deriving DecidableEq, Repr

/-- The name of a level. -/
def Level.name : Level → String
  | trace => "TRACE"
  | debug => "DEBUG"
  | info => "INFO"
  | warn => "WARN"
  | error => "ERROR"

/-- Something worth recording. -/
inductive Event where
  /-- A mock device has been set up. -/
  | mockStarted (name : String)
  /-- A mock device echoes a command. -/
  | mockEchoed (command : Device.Command)
  /-- A mock device was sent something that is no command. -/
  | mockIgnored (bytes : Bytes)
  /-- A serial port is about to be opened. -/
  | portOpening (path : String) (baud : UInt32)
  /-- A serial port is open. -/
  | portOpened (path : String)
  /-- The poller starts, and repeats its rotation with this period. -/
  | pollingStarted (period : Duration)
  /-- A decoded status becomes the latest one. -/
  | statusPublished (status : Status)
  /-- A status frame was not accepted. -/
  | frameRejected (reason : Frame.Malformed) (response : Device.Response)
  /-- The status request was not answered. -/
  | statusMissing
  /-- An auxiliary command was answered. -/
  | auxiliaryAnswered (command : Device.Command) (response : Device.Response)
  /-- The poller gives up. -/
  | pollingStopped (fault : Fault)
  /-- A request is about to be answered. -/
  | replying (request reply : String)
  deriving DecidableEq

namespace Event

/-- How much attention an event asks for. -/
def level : Event → Level
  | mockEchoed _ | replying _ _ => .trace
  | mockStarted _ | portOpening _ _ | statusPublished _ | auxiliaryAnswered _ _ => .debug
  | portOpened _ | pollingStarted _ => .info
  | mockIgnored _ | frameRejected _ _ | statusMissing => .warn
  | pollingStopped _ => .error

/-- The text of an event. -/
def message : Event → String
  | mockStarted _ => "Running mock device"
  | mockEchoed _ => "Echoing auxiliary command"
  | mockIgnored bytes => "Mock got unknown command: `" ++ Text.lossy bytes ++ "`"
  | portOpening _ _ => "Opening port"
  | portOpened path => "Connected to serial port at " ++ path
  | pollingStarted period => "Polling every " ++ period.text
  | statusPublished _ => "Publishing status"
  | frameRejected _ _ => "Rejected status frame, keeping previous snapshot"
  | statusMissing => "Device did not answer the status request"
  | auxiliaryAnswered _ _ => "Auxiliary response"
  | pollingStopped _ => "Device link failed, polling stops"
  | replying _ _ => "Replying"

/-- The named values recorded with an event, as shown. -/
def values : Event → List (String × String)
  | mockStarted name => [("name", name)]
  | mockEchoed command => [("command", command.body)]
  | portOpening path baud => [("self.path", path), ("baud", baud.toNat.repr)]
  | frameRejected reason response => [("e", reason.message), ("response", response.text)]
  | auxiliaryAnswered command response =>
    [("command", command.body), ("response", response.text)]
  | pollingStopped fault => [("e", fault.message)]
  | replying request reply => [("request", request), ("reply", reply)]
  | mockIgnored _ | portOpened _ | pollingStarted _ | statusPublished _ | statusMissing => []

end Event
end Log
end SerialShare
