import SerialShare.Device.Port
import SerialShare.Files
import SerialShare.Poller.Rotation
import SerialShare.Text.Blank

/-!
# Configuration

Which device to poll, where to accept clients, and how long to wait around each request, with the
values that are used where nothing is said, and the conditions for the service to start.
-/

namespace SerialShare

/-- Which device to poll. -/
structure DeviceSettings where
  /-- The path of the serial port. -/
  path : String
  /-- The rate of the serial line. -/
  baud : UInt32
  /-- Whether to poll a device in memory instead. -/
  mock : Bool
  deriving DecidableEq, Repr

/-- Where to accept clients. -/
structure ServerSettings where
  /-- The address to listen on. -/
  host : Net.Ip
  /-- The port to listen on. -/
  port : UInt16
  deriving DecidableEq, Repr

/-- Everything that can be configured. -/
structure Config where
  /-- Which device to poll. -/
  device : DeviceSettings
  /-- Where to accept clients. -/
  server : ServerSettings
  /-- The waits around each request. -/
  timing : Timing
  deriving DecidableEq, Repr

/-- The port for clients unless told otherwise. -/
def defaultPort : UInt16 := 10500

/-- The device polled unless told otherwise. -/
def DeviceSettings.standard : DeviceSettings := ⟨"/dev/ttyUSB0", Device.defaultBaud, false⟩

/-- Clients of this host only, unless told otherwise. -/
def ServerSettings.standard : ServerSettings := ⟨.v4 127 0 0 1, defaultPort⟩

/-- The configuration where nothing is said. -/
def Config.standard : Config := ⟨.standard, .standard, .standard⟩

/-- A configuration with every field filled in, for demonstrations. -/
def Config.example : Config :=
  ⟨⟨"/dev/ttyUSB1", 115200, false⟩, ⟨.v4 0 0 0 0, 32001⟩, .standard⟩

namespace Config

/-- Why a configuration cannot be used. -/
inductive Problem where
  /-- Its file cannot be read. -/
  | unreadable (shownPath : String) (refusal : Files.Refusal)
  /-- Its text is not a configuration. -/
  | malformed
  /-- There is no device to poll. -/
  | noDevicePath
  /-- The rate of the serial line is zero. -/
  | zeroBaud
  /-- The device is given no time to respond. -/
  | zeroLatency
  deriving DecidableEq, Repr

/-- The text shown for a problem.  No reason is given for a malformed text. -/
def Problem.message : Problem → String
  | unreadable shownPath refusal => "Could not read " ++ shownPath ++ ": " ++ refusal.text
  | malformed => "<ron>"
  | noDevicePath => "A device path is needed unless mocking"
  | zeroBaud => "Baud must be non-zero"
  | zeroLatency =>
    "The device needs some time to respond, response latency must be non-zero"

/-- The fault that a problem is to the service. -/
def Problem.fault (problem : Problem) : Fault :=
  .badConfig problem.message

/-- The first problem that keeps the service from starting, if there is one. -/
def problem? (config : Config) : Option Problem :=
  if config.device.mock = false ∧ (Text.trim config.device.path).isEmpty then some .noDevicePath
  else if config.device.baud = 0 then some .zeroBaud
  else if config.timing.latency = 0 then some .zeroLatency
  else none

end Config
end SerialShare
