import SerialShare.CommandLine.Arguments
import SerialShare.Config.Printer
import SerialShare.Config.Reader
import SerialShare.Connection.Client

/-!
# The program

What the program does with its command line on a given host, up to the point where the service is
running, and the code it exits with.
-/

namespace SerialShare

/-- What the program finds on its host. -/
structure Host where
  /-- What the file at a path holds. -/
  fileContents : String → Except Files.Refusal Bytes
  /-- What opening a log in a directory comes to. -/
  openLog : String → Except Files.Refusal Unit
  /-- What opening a serial port comes to. -/
  openPort : Device.Port → Except IoFault Unit
  /-- What listening on an address comes to. -/
  listen : Net.SocketAddress → Except IoFault Unit
  /-- What connecting to a service comes to: what the service knows of its device. -/
  reach : String → UInt16 → Except IoFault Snapshot

namespace Program

/-! ## What is printed -/

/-- The text shown for the version. -/
def version : String := "sdk-bridge 0.1.0\n"

/-- The text shown for help. -/
def help : String :=
  "SDK Bridge shares a serial attached monitoring device with many network clients.\n\n" ++
  "Usage: sdk-bridge [OPTIONS] [CONFIG] [COMMAND]\n\n" ++
  "Commands:\n" ++
  "  examples config     Show an example of a configuration file's contents\n" ++
  "  examples frame      Show an example status frame, as the device would send it\n" ++
  "  query <REQUEST>     Send a single request to a running bridge and print the reply\n" ++
  "  help                Print this message\n\n" ++
  "Options:\n" ++
  "      --device <DEVICE>        Serial port of the device\n" ++
  "      --baud <BAUD>            Serial line rate\n" ++
  "      --host <HOST>            Address to accept query clients on\n" ++
  "  -p, --port <PORT>            Port to accept query clients on\n" ++
  "      --mock                   Poll an in-memory device instead of a serial port\n" ++
  "      --log-level <LOG_LEVEL>  Log level of terminal output [default: INFO]\n" ++
  "      --log-dir <LOG_DIR>      Also log to files in this directory\n" ++
  "  -h, --help                   Print help\n" ++
  "  -V, --version                Print version\n"

/-- The text of an example. -/
def exampleText : CommandLine.Example → String
  | .config => Config.example.text ++ "\n"
  | .frame => Text.lossy (Frame.encode .example) ++ "\n"

/-! ## What is done -/

/-- Why the program cannot do what it is asked to do. -/
inductive Failure where
  /-- The log cannot be kept. -/
  | unlogged (refusal : Files.Refusal)
  /-- The configuration cannot be used. -/
  | unusable (problem : Config.Problem)
  /-- The service cannot be set up. -/
  | faulty (fault : Fault)
  /-- A single request is not answered. -/
  | unanswered (fault : IoFault)
  deriving DecidableEq, Repr

/-- The text shown for a failure. -/
def Failure.message : Failure → String
  | unlogged refusal => "Could not open the log: " ++ refusal.text
  | unusable problem => problem.fault.message
  | faulty fault => fault.message
  | unanswered fault => fault.message

/-- The code to exit with for a failure.  Without its log the program breaks off, and has a code of
its own for that. -/
def Failure.exitCode : Failure → Nat
  | unlogged _ => 101
  | unusable _ | faulty _ | unanswered _ => 1

/-- What the program comes to. -/
inductive Outcome where
  /-- It prints a text, and is done. -/
  | printed (text : String)
  /-- It does not understand its command line. -/
  | misused (stop : CommandLine.Stop)
  /-- It cannot do what it is asked to do. -/
  | failed (failure : Failure)
  /-- The service is running, until somebody tells it to stop. -/
  | running (config : Config)
  deriving DecidableEq, Repr

/-- The code to exit with.  A running service that is told to stop has done well. -/
def Outcome.exitCode : Outcome → Nat
  | printed _ | running _ => 0
  | failed failure => failure.exitCode
  | misused _ => 2

/-- What goes to the standard output, if the program does well. -/
def Outcome.printed? : Outcome → Option String
  | printed text => some text
  | running _ => some ""
  | failed _ | misused _ => none

/-- The bytes that can be under way on a connection in each direction. -/
def capacity : Nat := 1048576

/-- Make a single request. -/
def query (host : Host) (address : String) (port : UInt16) (request : String) :
    Except IoFault String :=
  match host.reach address port with
  | .error fault => .error fault
  | .ok snapshot => ((Session.new capacity).query snapshot request).1.getD (.error Client.closed)

/-- The name of the log of a day. -/
def logName (date : String) : String :=
  "sdk-bridge.log." ++ date

/-- Open the log in the directory that the command line names, if it names one. -/
def openLog (host : Host) (arguments : CommandLine.Arguments) : Except Files.Refusal Unit :=
  match arguments.logDirectory with
  | none => .ok ()
  | some directory => host.openLog directory

/-- The configuration of the file that the command line names, or else the standard one. -/
def baseConfiguration (host : Host) (arguments : CommandLine.Arguments) :
    Except Config.Problem Config :=
  match arguments.configPath with
  | none => .ok .standard
  | some path => Config.load host.fileContents path

/-- The configuration to run with, if there is one: what the command line says is laid over the
other one, and only the outcome has to be usable. -/
def configuration (host : Host) (arguments : CommandLine.Arguments) :
    Except Config.Problem Config :=
  match baseConfiguration host arguments with
  | .error problem => .error problem
  | .ok base =>
    let config := arguments.laidOver base
    match config.problem? with
    | none => .ok config
    | some problem => .error problem

/-- Accept clients at an address. -/
def listen (host : Host) (address : Net.SocketAddress) : Except Fault Unit :=
  match host.listen address with
  | .ok () => .ok ()
  | .error source => .error (.listen address source)

/-- Attach the device, which the mock device always is. -/
def attach (host : Host) (settings : DeviceSettings) : Except Fault Unit :=
  if settings.mock then .ok ()
  else ((Device.Port.mk settings.path settings.baud).open host.openPort).1

/-- Set up the service. -/
def serve (host : Host) (config : Config) : Except Fault Unit := do
  attach host config.device
  listen host ⟨config.server.host, config.server.port, 0⟩

/-- What the program comes to on a host with a command line. -/
def start (host : Host) (words : List String) : Outcome :=
  match CommandLine.parse words with
  | .error .help => .printed help
  | .error .version => .printed version
  | .error stop => .misused stop
  | .ok arguments =>
    match arguments.task with
    | some (.show shown) => .printed (exampleText shown)
    | some (.query address port request) =>
      match query host address port request with
      | .ok reply => .printed (reply ++ "\n")
      | .error fault => .failed (.unanswered fault)
    | none =>
      match openLog host arguments with
      | .error refusal => .failed (.unlogged refusal)
      | .ok () =>
        match configuration host arguments with
        | .error problem => .failed (.unusable problem)
        | .ok config =>
          match serve host config with
          | .ok () => .running config
          | .error fault => .failed (.faulty fault)

end Program
end SerialShare
