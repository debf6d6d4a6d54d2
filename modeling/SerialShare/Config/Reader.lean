import SerialShare.Config.Basic
import SerialShare.Record.Skip
import SerialShare.Text.Quoted

/-!
# Reading configurations

A text says as much as it wants: each section and each setting may be left out, and they may come in
any order.  What the text says is collected first, at most one value for each setting, and then laid
over the values that are used where nothing is said.
-/

namespace SerialShare

/-- What is said about the device. -/
structure DeviceEntries where
  /-- The path of the serial port. -/
  path : Option String
  /-- The rate of the serial line. -/
  baud : Option UInt32
  /-- Whether to poll a device in memory instead. -/
  mock : Option Bool
  deriving DecidableEq, Repr

/-- What is said about clients. -/
structure ServerEntries where
  /-- The address to listen on. -/
  host : Option Net.Ip
  /-- The port to listen on. -/
  port : Option UInt16
  deriving DecidableEq, Repr

/-- What is said about the waits. -/
structure TimingEntries where
  /-- How long to let the device settle. -/
  settle : Option UInt64
  /-- How long to wait for a response. -/
  latency : Option UInt64
  deriving DecidableEq, Repr

/-- What is said altogether. -/
structure ConfigEntries where
  /-- The section on the device. -/
  device : Option DeviceEntries
  /-- The section on clients. -/
  server : Option ServerEntries
  /-- The section on the waits. -/
  timing : Option TimingEntries
  deriving DecidableEq, Repr

/-! ## Laying over -/

/-- Settings with those that something is said about replaced. -/
def DeviceEntries.laidOver (entries : DeviceEntries) (settings : DeviceSettings) : DeviceSettings :=
  ⟨entries.path.getD settings.path, entries.baud.getD settings.baud,
    entries.mock.getD settings.mock⟩

/-- Settings with those that something is said about replaced. -/
def ServerEntries.laidOver (entries : ServerEntries) (settings : ServerSettings) : ServerSettings :=
  ⟨entries.host.getD settings.host, entries.port.getD settings.port⟩

/-- Waits with those that something is said about replaced. -/
def TimingEntries.laidOver (entries : TimingEntries) (timing : Timing) : Timing :=
  ⟨entries.settle.getD timing.settle, entries.latency.getD timing.latency⟩

/-- A configuration with everything that something is said about replaced. -/
def ConfigEntries.laidOver (entries : ConfigEntries) (config : Config) : Config :=
  { device := entries.device.elim config.device (·.laidOver config.device)
    server := entries.server.elim config.server (·.laidOver config.server)
    timing := entries.timing.elim config.timing (·.laidOver config.timing) }

/-! ## Reading -/

namespace Config

open Record

/-- Read the value of an entry, unless there has been one. -/
def once? {Value State : Type} (previous : Option Value)
    (read : List Char → Option (Value × List Char)) (store : Value → State)
    (input : List Char) : Option (State × List Char) :=
  if previous.isSome then none
  else (read input).map fun (value, rest) => (store value, rest)

/-- Skip the value of an entry that means nothing. -/
def skip? {State : Type} (levels : Nat) (state : State) (input : List Char) :
    Option (State × List Char) :=
  (skipValue? levels input).map (state, ·)

/-- Read a number of 16 bits. -/
def word16? (input : List Char) : Option (UInt16 × List Char) :=
  (naturalBelow? UInt16.size input).map fun (value, rest) => (UInt16.ofNat value, rest)

/-- Read a number of 32 bits. -/
def word32? (input : List Char) : Option (UInt32 × List Char) :=
  (naturalBelow? UInt32.size input).map fun (value, rest) => (UInt32.ofNat value, rest)

/-- Read a number of 64 bits. -/
def word64? (input : List Char) : Option (UInt64 × List Char) :=
  (naturalBelow? UInt64.size input).map fun (value, rest) => (UInt64.ofNat value, rest)

/-- Read a text. -/
def string? (input : List Char) : Option (String × List Char) :=
  (text? input).map fun (characters, rest) => (String.ofList characters, rest)

/-- Read an internet address, written as a text. -/
def address? (input : List Char) : Option (Net.Ip × List Char) := do
  let (characters, rest) ← text? input
  let ip ← Net.Ip.ofCharacters? characters
  some (ip, rest)

/-- The levels left inside a section for values that mean nothing. -/
def sectionLevels : Nat := nestingLimit - 4

/-- The levels left outside the sections for values that mean nothing. -/
def outerLevels : Nat := nestingLimit - 2

/-- Read one entry on the device. -/
def deviceEntry? (entries : DeviceEntries) (key input : List Char) :
    Option (DeviceEntries × List Char) :=
  if key = "path".toList then
    once? entries.path string? (fun value => { entries with path := some value }) input
  else if key = "baud".toList then
    once? entries.baud word32? (fun value => { entries with baud := some value }) input
  else if key = "mock".toList then
    once? entries.mock boolean? (fun value => { entries with mock := some value }) input
  else skip? sectionLevels entries input

/-- Read one entry on clients. -/
def serverEntry? (entries : ServerEntries) (key input : List Char) :
    Option (ServerEntries × List Char) :=
  if key = "host".toList then
    once? entries.host address? (fun value => { entries with host := some value }) input
  else if key = "port".toList then
    once? entries.port word16? (fun value => { entries with port := some value }) input
  else skip? sectionLevels entries input

/-- Read one entry on the waits. -/
def timingEntry? (entries : TimingEntries) (key input : List Char) :
    Option (TimingEntries × List Char) :=
  if key = "settle_ms".toList then
    once? entries.settle word64? (fun value => { entries with settle := some value }) input
  else if key = "response_latency_ms".toList then
    once? entries.latency word64? (fun value => { entries with latency := some value }) input
  else skip? sectionLevels entries input

/-- Read one section. -/
def configEntry? (entries : ConfigEntries) (key input : List Char) :
    Option (ConfigEntries × List Char) :=
  if key = "device".toList then
    once? entries.device (record? "DeviceConfig" deviceEntry? ⟨none, none, none⟩)
      (fun value => { entries with device := some value }) input
  else if key = "server".toList then
    once? entries.server (record? "ServerConfig" serverEntry? ⟨none, none⟩)
      (fun value => { entries with server := some value }) input
  else if key = "timing".toList then
    once? entries.timing (record? "TimingConfig" timingEntry? ⟨none, none⟩)
      (fun value => { entries with timing := some value }) input
  else skip? outerLevels entries input

/-- What a text says, if it is a configuration. -/
def entries? (text : String) : Option ConfigEntries :=
  document? "Config" configEntry? ⟨none, none, none⟩ text.toList

/-- The configuration that a text denotes, with the standard values where it says nothing. -/
def parse (text : String) : Except Problem Config :=
  match entries? text with
  | some entries => .ok (entries.laidOver standard)
  | none => .error .malformed

/-- The configuration that the bytes of a file denote.  The path is only shown. -/
def ofBytes (shownPath : String) (contents : Bytes) : Except Problem Config :=
  match Text.decode? contents with
  | some text => parse text
  | none => .error (.unreadable shownPath .notText)

/-- The configuration in the file at a path, given what files hold. -/
def load (fileContents : String → Except Files.Refusal Bytes) (path : String) :
    Except Problem Config :=
  let shownPath := Text.Quotation.shown.quote path
  match fileContents path with
  | .ok contents => ofBytes shownPath contents
  | .error refusal => .error (.unreadable shownPath refusal)

end Config
end SerialShare
