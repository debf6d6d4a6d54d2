import SerialShare.Config.Reader
import SerialShare.Proofs.Config.Setting

/-!
# How the text of a configuration is read

What is read from a text are the settings that it gives, wherever they stand in it, and these are
laid over the standard ones.
-/

namespace SerialShare
namespace Config

open Record

/-! ## Values -/

/-- Read a value of a setting. -/
def Setting.read? : (setting : Setting) → List Char → Option (setting.Value × List Char)
  | path => string?
  | baud => word32?
  | mock => boolean?
  | host => address?
  | port => word16?
  | settle | latency => word64?

/-- A value is found in each of its spellings. -/
theorem Setting.read?_append
    {setting : Setting}
    {value : setting.Value}
    {text rest : List Char}
    (spells : setting.Spells value text)
    (delimited : Delimited rest) :
    setting.read? (text ++ rest) = some (value, rest) := by
  cases setting with
  | path =>
      have found := text?_append spells rest
      simp [read?, string?, found]
  | mock => exact spells ▸ boolean?_append value rest
  | host =>
      obtain ⟨characters, isText, isAddress⟩ := spells
      simp [read?, address?, text?_append isText rest, isAddress]
  | baud =>
      have found := naturalBelow?_append spells value.toNat_lt delimited
      simp [read?, word32?, UInt32.size, found]
  | port =>
      have found := naturalBelow?_append spells value.toNat_lt delimited
      simp [read?, word16?, UInt16.size, found]
  | settle | latency =>
      have found := naturalBelow?_append spells value.toNat_lt delimited
      simp [read?, word64?, UInt64.size, found]

/-- The first value of an entry is stored. -/
theorem once?_none
    {Value State : Type}
    {read : List Char → Option (Value × List Char)}
    (store : Value → State)
    {input rest : List Char}
    {value : Value}
    (found : read input = some (value, rest)) :
    once? none read store input = some (store value, rest) := by
  simp [once?, found]

/-! ## Sections -/

namespace Part

/-- What is kept of a section. -/
abbrev Entries : Part → Type
  | device => DeviceEntries
  | server => ServerEntries
  | timing => TimingEntries

/-- What is kept of each setting of a section. -/
def held : {part : Part} → part.Entries → (field : part.form.Field) → Option field.1.Value
  | device, entries, ⟨.path, _⟩ => entries.path
  | device, entries, ⟨.baud, _⟩ => entries.baud
  | device, entries, ⟨.mock, _⟩ => entries.mock
  | server, entries, ⟨.host, _⟩ => entries.host
  | server, entries, ⟨.port, _⟩ => entries.port
  | timing, entries, ⟨.settle, _⟩ => entries.settle
  | timing, entries, ⟨.latency, _⟩ => entries.latency

/-- What is kept of a section with given values for its settings. -/
def entriesOf : (part : Part) → ((field : part.form.Field) → Option field.1.Value) → part.Entries
  | device, values =>
    ⟨values Setting.path.field, values Setting.baud.field, values Setting.mock.field⟩
  | server, values => ⟨values Setting.host.field, values Setting.port.field⟩
  | timing, values => ⟨values Setting.settle.field, values Setting.latency.field⟩

theorem held_entriesOf
    {part : Part}
    (values : (field : part.form.Field) → Option field.1.Value) :
    held (part.entriesOf values) = values := by
  funext ⟨setting, isPart⟩
  subst isPart
  cases setting <;> rfl

theorem entriesOf_held
    {part : Part}
    (entries : part.Entries) :
    part.entriesOf (held entries) = entries := by
  cases part <;> rfl

/-- Read an entry of a section. -/
def entry? : (part : Part) → part.Entries → List Char → List Char →
    Option (part.Entries × List Char)
  | device => deviceEntry?
  | server => serverEntry?
  | timing => timingEntry?

/-- The reader of a section puts the first value of each setting in its place. -/
theorem entry?_key
    {part : Part}
    (entries : part.Entries)
    (field : part.form.Field)
    (input : List Char) :
    part.entry? entries (part.form.key field).toList input =
      once? (held entries field) field.1.read?
        (fun value => part.entriesOf (Function.update (held entries) field (some value)))
        input := by
  obtain ⟨setting, rfl⟩ := field
  cases setting <;> rfl

/-- The readers of the sections follow their forms. -/
theorem readBy_entry? (part : Part) : part.form.ReadBy (fun _ value => value) held part.entry? := by
  intro entries field value text rest spells delimited free
  have found := Setting.read?_append spells delimited
  refine ⟨part.entriesOf (Function.update (held entries) field (some value)), ?_, held_entriesOf _⟩
  rw [entry?_key, free]
  exact once?_none _ found

/-- Everything that is said in a section is kept of it. -/
theorem record?_append
    {part : Part}
    {said : part.form.Said}
    {text : List Char}
    (spells : SpellsRecord part.form said text)
    (rest : List Char) :
    record? part.name part.entry? (part.entriesOf fun _ => none) (text ++ rest) =
      some (part.entriesOf said.value?, rest) := by
  have empty : ∀ field, held (part.entriesOf fun _ => none) field = none :=
    congrFun (held_entriesOf _)
  obtain ⟨final, found, holds⟩ := Record.record?_append part.readBy_entry? spells empty rest
  have all : final = part.entriesOf said.value? := by
    rw [← entriesOf_held final]
    congr 1
    funext field
    rw [holds field, Option.map_id']
  exact all ▸ found

end Part

end Config

/-! ## Configurations -/

open Config (Part Setting)

namespace ConfigEntries

/-- What is kept of each section. -/
def held (entries : ConfigEntries) : (part : Part) → Option part.Entries
  | .device => entries.device
  | .server => entries.server
  | .timing => entries.timing

/-- What is kept after a section has been read. -/
def put (entries : ConfigEntries) : (part : Part) → part.Entries → ConfigEntries
  | .device, kept => { entries with device := some kept }
  | .server, kept => { entries with server := some kept }
  | .timing, kept => { entries with timing := some kept }

theorem held_put
    (entries : ConfigEntries)
    (part : Part)
    (kept : part.Entries) :
    (entries.put part kept).held = Function.update entries.held part (some kept) := by
  funext other
  cases part <;> cases other <;> rfl

/-- A setting has the value that has been given in its section, and else the one that it had. -/
theorem get_laidOver
    (entries : ConfigEntries)
    (config : Config)
    (setting : Setting) :
    (entries.laidOver config).get setting =
      ((entries.held setting.part).bind fun kept => Part.held kept setting.field).getD
        (config.get setting) := by
  obtain ⟨device, server, timing⟩ := entries
  cases setting with
  | path | baud | mock => cases device <;> rfl
  | host | port => cases server <;> rfl
  | settle | latency => cases timing <;> rfl

end ConfigEntries

namespace Config

open Record

theorem configEntry?_key
    (entries : ConfigEntries)
    (part : Part)
    (input : List Char) :
    configEntry? entries part.key.toList input =
      once? (entries.held part) (record? part.name part.entry? (part.entriesOf fun _ => none))
        (entries.put part) input := by
  cases part <;> rfl

/-- The reader of a configuration follows its form, and keeps of each section what is said in it. -/
theorem readBy_configEntry? :
    form.ReadBy (fun part said => part.entriesOf said.value?) ConfigEntries.held configEntry? := by
  intro entries part said text rest spells _ free
  refine ⟨entries.put part (part.entriesOf said.value?), ?_, entries.held_put part _⟩
  rw [configEntry?_key, free]
  exact once?_none _ (Part.record?_append spells rest)

/-- The outcome of a text has the values that it gives to settings, and the standard ones for all
others. -/
theorem exists_parse_eq_ok
    {said : form.Said}
    {text : String}
    (spells : SpellsDocument form said text.toList) :
    ∃ config, parse text = .ok config ∧
      ∀ setting, config.get setting = (given? said setting).getD (standard.get setting) := by
  have empty (part : Part) : (ConfigEntries.mk none none none).held part = none := by
    cases part <;> rfl
  obtain ⟨entries, found, holds⟩ := document?_eq_some readBy_configEntry? spells empty
  refine ⟨entries.laidOver standard, ?_, ?_⟩
  · have isSome : entries? text = some entries := found
    rw [parse, isSome]
  · intro setting
    rw [entries.get_laidOver, holds, given?, Option.bind_map]
    congr 2
    funext inside
    exact congrFun (Part.held_entriesOf inside.value?) setting.field

end Config
end SerialShare
