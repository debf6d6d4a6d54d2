import SerialShare.CommandLine.Grammar
import SerialShare.Config.Basic

/-!
# The command line

What can be said on the command line of the service: settings that count more than those of the
configuration, examples to print, and a single request to a service that is running already.
-/

namespace SerialShare
namespace CommandLine

/-- What there are examples of. -/
inductive Example where
  /-- A configuration. -/
  | config
  /-- A status frame. -/
  | frame
  deriving DecidableEq, Repr

/-- What to do instead of running the service. -/
inductive Task where
  /-- Print an example. -/
  | show (shown : Example)
  /-- Make a single request to a service that is running already. -/
  | query (address : String) (port : UInt16) (request : String)
  deriving DecidableEq, Repr

/-- What a command line says. -/
structure Arguments where
  /-- The path of the configuration. -/
  configPath : Option String
  /-- The path of the serial port. -/
  device : Option String
  /-- The rate of the serial line. -/
  baud : Option UInt32
  /-- The address to listen on. -/
  host : Option Net.Ip
  /-- The port to listen on. -/
  port : Option UInt16
  /-- Whether to poll a device in memory. -/
  mock : Bool
  /-- The least important events to record. -/
  logLevel : Log.Level
  /-- The directory for log files. -/
  logDirectory : Option String
  /-- What to do instead of running the service. -/
  task : Option Task
  deriving DecidableEq, Repr

namespace Arguments

/-- What an empty command line says. -/
def empty : Arguments :=
  { configPath := none
    device := none
    baud := none
    host := none
    port := none
    mock := false
    logLevel := .info
    logDirectory := none
    task := none }

/-- A configuration with everything that the command line says something about replaced.  The mock
device can be asked for, and cannot be declined. -/
def laidOver (arguments : Arguments) (config : Config) : Config :=
  { config with
    device :=
      { path := arguments.device.getD config.device.path
        baud := arguments.baud.getD config.device.baud
        mock := config.device.mock || arguments.mock }
    server :=
      { host := arguments.host.getD config.server.host
        port := arguments.port.getD config.server.port } }

end Arguments

/-! ## Values -/

/-- An option or operand that takes over a value of any form. -/
def anyText {Settings : Type} (store : String → Settings → Settings) : Effect Settings :=
  .value fun value settings => .ok (store value settings)

/-- An option or operand that takes over a path, which is not empty. -/
def path {Settings : Type} (store : String → Settings → Settings) : Effect Settings :=
  .value fun value settings =>
    if value.isEmpty then .error .missingValue else .ok (store value settings)

/-- An option or operand that takes over a value of some form. -/
def formed {Settings Value : Type} (read? : String → Option Value)
    (store : Value → Settings → Settings) : Effect Settings :=
  .value fun value settings =>
    match read? value with
    | some value => .ok (store value settings)
    | none => .error .malformedValue

/-- The number below a bound that a text denotes in decimal, with an optional sign. -/
def numberBelow? (bound : Nat) (text : String) : Option Nat :=
  match Text.signedNumber? text.toList with
  | some value => if 0 ≤ value ∧ value < bound then some value.toNat else none
  | none => none

/-- The number of 16 bits that a text denotes. -/
def word16? (text : String) : Option UInt16 :=
  (numberBelow? UInt16.size text).map UInt16.ofNat

/-- The number of 32 bits that a text denotes. -/
def word32? (text : String) : Option UInt32 :=
  (numberBelow? UInt32.size text).map UInt32.ofNat

/-- The levels by the numbers they can be given as, from one on. -/
def levels : List Log.Level := [.error, .warn, .info, .debug, .trace]

/-- The level that a text names in any case, or gives as a number, which may have a plus sign. -/
def level? (text : String) : Option Log.Level :=
  let digits := match text.toList with
    | '+' :: digits => digits
    | digits => digits
  match Text.number? 10 digits with
  | some 0 => none
  | some (index + 1) => levels[index]?
  | none => levels.find? fun level => level.name.toList == text.toList.map Char.toUpper

/-! ## Grammars -/

/-- The option for help. -/
def helpOption {Settings : Type} : Argument Settings :=
  ⟨"help", some 'h', .stop .help⟩

/-- The grammar behind the name of an example. -/
def bare : Grammar Unit := ⟨[helpOption], [], []⟩

/-- The command for one example. -/
def exampleCommand (name : String) (shown : Example) : Command (Option Example) :=
  { name
    topics := []
    read := fun words => (bare.read () words).map fun _ _ => some shown }

/-- The grammar behind the command for examples. -/
def examples : Grammar (Option Example) :=
  { options := [helpOption]
    operands := []
    commands := [exampleCommand "config" .config, exampleCommand "frame" .frame] }

/-- Read which example to print. -/
def readExample (words : List String) : Except Stop Example := do
  let result ← examples.read none words
  match result.command.bind (· result.settings) with
  | some shown => .ok shown
  | none => .error .helpInstead

/-- What is read of a single request. -/
structure RequestArguments where
  /-- Where the service is running. -/
  address : String
  /-- The port of the service. -/
  port : UInt16
  /-- The request. -/
  request : Option String

/-- The grammar behind the command for a single request. -/
def requests : Grammar RequestArguments :=
  { options := [
      ⟨"address", some 'a', anyText fun address settings => { settings with address }⟩,
      ⟨"port", some 'p', formed word16? fun port settings => { settings with port }⟩,
      helpOption]
    operands := [⟨"request", none, anyText fun request settings =>
      { settings with request := some request }⟩]
    commands := [] }

/-- Read a single request. -/
def readRequest (words : List String) : Except Stop Task := do
  let result ← requests.read ⟨"127.0.0.1", defaultPort, none⟩ words
  match result.settings.request with
  | some request => .ok (.query result.settings.address result.settings.port request)
  | none => .error .missingOperand

/-- The grammar of the command line. -/
def grammar : Grammar Arguments :=
  { options := [
      ⟨"device", none, anyText fun device settings => { settings with device := some device }⟩,
      ⟨"baud", none, formed word32? fun baud settings => { settings with baud := some baud }⟩,
      ⟨"host", none, formed Net.Ip.parse? fun host settings => { settings with host := some host }⟩,
      ⟨"port", some 'p', formed word16? fun port settings => { settings with port := some port }⟩,
      ⟨"mock", none, .mark fun settings => { settings with mock := true }⟩,
      ⟨"log-level", none, formed level? fun logLevel settings => { settings with logLevel }⟩,
      ⟨"log-dir", none, path fun directory settings =>
        { settings with logDirectory := some directory }⟩,
      helpOption,
      ⟨"version", some 'V', .stop .version⟩]
    operands := [⟨"config", none, path fun path settings =>
      { settings with configPath := some path }⟩]
    commands := [
      { name := "examples"
        topics := examples.topics
        read := fun words => (readExample words).map fun shown settings =>
          { settings with task := some (.show shown) } },
      { name := "query"
        topics := []
        read := fun words => (readRequest words).map fun task settings =>
          { settings with task := some task } }] }

/-- Read a command line. -/
def parse (words : List String) : Except Stop Arguments :=
  (grammar.read .empty words).map fun result =>
    result.command.elim result.settings (· result.settings)

end CommandLine
end SerialShare
