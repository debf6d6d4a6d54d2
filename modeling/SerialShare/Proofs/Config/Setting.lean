import SerialShare.Config.Printer
import SerialShare.Proofs.Net.Address
import SerialShare.Proofs.Record.Document
import SerialShare.Proofs.Record.Texts

/-!
# What the text of a configuration says

The settings of a configuration belong to sections, and a text gives some of them.  This module
says which texts give which settings, and how one can be written for any choice of them.  How these
texts are read is left to others.
-/

namespace SerialShare

open Record

namespace Config

/-! ## Settings -/

/-- The sections of a configuration. -/
inductive Part where
  /-- Which device to poll. -/
  | device
  /-- Where to accept clients. -/
  | server
  /-- The waits around each request. -/
  | timing
  deriving DecidableEq

/-- What can be set in a configuration. -/
inductive Setting where
  /-- The path of the serial port. -/
  | path
  /-- The rate of the serial line. -/
  | baud
  /-- Whether to poll a device in memory instead. -/
  | mock
  /-- The address to listen on. -/
  | host
  /-- The port to listen on. -/
  | port
  /-- How long to let the device settle. -/
  | settle
  /-- How long to wait for a response. -/
  | latency
  deriving DecidableEq

namespace Setting

/-- The section that a setting belongs to. -/
def part : Setting → Part
  | path | baud | mock => .device
  | host | port => .server
  | settle | latency => .timing

/-- The values that a setting can have. -/
abbrev Value : Setting → Type
  | path => String
  | baud => UInt32
  | mock => Bool
  | host => Net.Ip
  | port => UInt16
  | settle | latency => UInt64

/-- The name of a setting in a text. -/
def key : Setting → String
  | path => "path"
  | baud => "baud"
  | mock => "mock"
  | host => "host"
  | port => "port"
  | settle => "settle_ms"
  | latency => "response_latency_ms"

/-- The texts that spell a value of a setting.  An address is spelled by the text of one of its
forms. -/
def Spells : (setting : Setting) → setting.Value → List Char → Prop
  | path, value, text => SpellsText value.toList text
  | mock, value, text => text = booleanOf value
  | host, value, text =>
    ∃ characters, SpellsText characters text ∧ Net.Ip.ofCharacters? characters = some value
  | baud, value, text => SpellsNumber value.toNat text
  | port, value, text => SpellsNumber value.toNat text
  | settle, value, text | latency, value, text => SpellsNumber value.toNat text

/-- What is written for a value of a setting. -/
def written : (setting : Setting) → setting.Value → List Char
  | path, value => textOf value
  | mock, value => booleanOf value
  | host, value => textOf value.text
  | baud, value => numberOf value.toNat
  | port, value => numberOf value.toNat
  | settle, value | latency, value => numberOf value.toNat

theorem isName_key (setting : Setting) : IsName setting.key.toList := by
  cases setting <;> exact ⟨by decide, by decide⟩

theorem solid_of_spells
    {setting : Setting}
    {value : setting.Value}
    {text : List Char}
    (spells : setting.Spells value text) :
    Solid text := by
  cases setting with
  | path => exact SpellsText.solid spells
  | mock => exact spells ▸ solid_booleanOf value
  | host =>
      obtain ⟨characters, isText, _⟩ := spells
      exact isText.solid
  | baud | port | settle | latency => exact SpellsNumber.solid spells

/-- What is written for a value spells it. -/
theorem spells_written
    (setting : Setting)
    (value : setting.Value) :
    setting.Spells value (setting.written value) := by
  cases setting with
  | path => exact spellsText_textOf value
  | mock => rfl
  | host =>
      refine ⟨value.characters, ?_, Net.Ip.ofCharacters?_characters value⟩
      have spells := spellsText_textOf value.text
      rwa [Net.Ip.text, String.toList_ofList] at spells
  | baud | port | settle | latency => exact spellsNumber_numberOf _

end Setting

/-- The value of a setting in a configuration. -/
def get (config : Config) : (setting : Setting) → setting.Value
  | .path => config.device.path
  | .baud => config.device.baud
  | .mock => config.device.mock
  | .host => config.server.host
  | .port => config.server.port
  | .settle => config.timing.settle
  | .latency => config.timing.latency

/-- A configuration consists of its settings. -/
theorem ext_get
    {config other : Config}
    (same : ∀ setting, config.get setting = other.get setting) :
    config = other := by
  obtain ⟨⟨path, baud, mock⟩, ⟨host, port⟩, ⟨settle, latency⟩⟩ := config
  obtain ⟨⟨path', baud', mock'⟩, ⟨host', port'⟩, ⟨settle', latency'⟩⟩ := other
  obtain rfl : path = path' := same .path
  obtain rfl : baud = baud' := same .baud
  obtain rfl : mock = mock' := same .mock
  obtain rfl : host = host' := same .host
  obtain rfl : port = port' := same .port
  obtain rfl : settle = settle' := same .settle
  obtain rfl : latency = latency' := same .latency
  rfl

/-! ## Sections -/

namespace Part

/-- The name that a section may be given. -/
def name : Part → String
  | device => "DeviceConfig"
  | server => "ServerConfig"
  | timing => "TimingConfig"

/-- The name of a section in a text. -/
def key : Part → String
  | device => "device"
  | server => "server"
  | timing => "timing"

/-- The form of a section: its settings. -/
abbrev form (part : Part) : Form where
  name := part.name
  Field := { setting : Setting // setting.part = part }
  Value field := field.1.Value
  key field := field.1.key
  Spells field := field.1.Spells
  isName_name := by cases part <;> exact ⟨by decide, by decide⟩
  isName_key field := field.1.isName_key
  solid := Setting.solid_of_spells

end Part

/-- A setting as an entry of the section that it belongs to. -/
abbrev Setting.field (setting : Setting) : setting.part.form.Field :=
  ⟨setting, rfl⟩

/-- The form of a configuration: its sections. -/
abbrev form : Form where
  name := "Config"
  Field := Part
  Value part := part.form.Said
  key := Part.key
  Spells part := SpellsRecord part.form
  isName_name := ⟨by decide, by decide⟩
  isName_key part := by cases part <;> exact ⟨by decide, by decide⟩
  solid := SpellsRecord.solid

/-- The value that a text gives to a setting. -/
def given? (said : form.Said) (setting : Setting) : Option setting.Value :=
  (said.value? setting.part).bind fun inside => inside.value? setting.field

/-! ## Writing -/

/-- What is written for a section. -/
def Part.written (part : Part) (said : part.form.Said) : List Char :=
  recordOf 1 (said.entries.map (part.form.written fun entry => entry.1.1.written entry.2))

/-- What is written where some settings are given. -/
def textSaying (said : form.Said) : String :=
  String.ofList (recordOf 0 (said.entries.map (form.written fun entry => entry.1.written entry.2)))

theorem Part.spells_written
    (part : Part)
    (said : part.form.Said) :
    SpellsRecord part.form said (part.written said) :=
  spellsRecord_recordOf 1 fun entry _ => entry.1.1.spells_written entry.2

/-- For any choice of settings there is a text that gives them. -/
theorem spells_textSaying (said : form.Said) :
    SpellsDocument form said (textSaying said).toList := by
  have record : SpellsRecord form said _ :=
    spellsRecord_recordOf 0 fun entry _ => entry.1.spells_written entry.2
  have newline : LastBlanks [] := .space rfl .none
  have document := SpellsDocument.record .none .none record newline
  rw [textSaying, String.toList_ofList]
  simpa using document

end Config
end SerialShare
