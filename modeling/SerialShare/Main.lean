import SerialShare.Device.Mock
import SerialShare.Program
import SerialShare.Service

/-!
# Running the program

The program on a host of which it knows the files and the standard streams.  Other services and
serial ports are out of its reach, so that the device is always the mock device, and the one client
of the service is whoever types requests.
-/

namespace SerialShare

/-- What the file at a path holds. -/
def fileContents (path : String) : IO (Except Files.Refusal Bytes) := do
  if path.contains '\x00' then return .error .zeroInPath
  try
    let contents ← IO.FS.readBinFile path
    return .ok contents.toList
  catch
    | .inappropriateType .. => return .error .isDirectory
    | _ => return .error .missing

/-- What the program finds on its host, given what the file of its configuration holds and what
opening its log comes to. -/
def standardHost (configuration : Except Files.Refusal Bytes) (log : Except Files.Refusal Unit) :
    Host :=
  { fileContents := fun _ => configuration
    openLog := fun _ => log
    openPort := fun _ => .error ⟨.notFound, "Serial ports are out of reach"⟩
    listen := fun _ => .ok ()
    reach := fun _ _ => .error ⟨.connectionRefused, "Other services are out of reach"⟩ }

/-- What the file of the configuration holds that a command line names, if it names one. -/
def configurationContents (words : List String) : IO (Except Files.Refusal Bytes) :=
  match (CommandLine.parse words).toOption.bind (·.configPath) with
  | some path => fileContents path
  | none => return .ok []

/-- Make the directory for the log that a command line asks for, unless it asks for something other
than the service. -/
def logOpened (words : List String) : IO (Except Files.Refusal Unit) := do
  match (CommandLine.parse words).toOption.bind fun arguments =>
    if arguments.task.isNone then arguments.logDirectory else none with
  | none => return .ok ()
  | some directory =>
    try
      IO.FS.createDirAll directory
      return .ok ()
    catch _ => return .error .sealed

/-- Answer one line after the other, polling the device before each. -/
partial def answerLines {State : Type} (service : Service State)
    (input output : IO.FS.Stream) : IO Unit := do
  let line ← input.getLine
  let (service, _, _) := service.perform .poll
  let (service, report, _) :=
    service.perform (if line.isEmpty then .close 0 else .send 0 (Text.utf8 line))
  if let .conversed received handler := report then
    output.putStr (Text.lossy received)
    output.flush
    unless line.isEmpty || handler.ending.isSome do
      answerLines service input output

end SerialShare

open SerialShare in
/-- Run the program. -/
def main (words : List String) : IO UInt32 := do
  let host := standardHost (← configurationContents words) (← logOpened words)
  let outcome := Program.start host words
  match outcome with
  | .printed text => IO.print text
  | .misused _ => IO.eprint Program.help
  | .failed failure => IO.eprintln failure.message
  | .running config =>
    let device := Device.Mock.new .example
    let service :=
      Service.overLink (Device.Mock.link "mock") device config.timing 0 Program.capacity
    let (service, _, _) := service.perform (.connect 0)
    answerLines service (← IO.getStdin) (← IO.getStdout)
  return UInt32.ofNat outcome.exitCode
