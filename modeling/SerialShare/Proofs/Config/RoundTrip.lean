import SerialShare.Proofs.Config.Reading

/-!
# Written configurations are read back

What is written for a configuration gives every setting the value that it has there.  So nothing is
left to the standard values, and what is read back is the same configuration.
-/

namespace SerialShare
namespace Config

open Record

/-- The settings of a section, in the order in which they are written. -/
def Part.settings : (part : Part) → List part.form.Field
  | device => [Setting.path.field, Setting.baud.field, Setting.mock.field]
  | server => [Setting.host.field, Setting.port.field]
  | timing => [Setting.settle.field, Setting.latency.field]

theorem Part.nodup_settings (part : Part) : part.settings.Nodup := by
  cases part <;> decide

/-- Everything that can be said in a text, with the values of a configuration. -/
def said (config : Config) : form.Said :=
  .ofValues [.device, .server, .timing] (by decide) fun part =>
    .ofValues part.settings part.nodup_settings fun field => config.get field.1

theorem given?_said
    (config : Config)
    (setting : Setting) :
    given? config.said setting = some (config.get setting) := by
  cases setting <;> rfl

/-- The text of a configuration is what is written where everything is said. -/
theorem text_eq_textSaying (config : Config) : config.text = textSaying config.said :=
  rfl

/-- What is written for a configuration is a document in which every setting is given. -/
theorem spells_text (config : Config) : SpellsDocument form config.said config.text.toList := by
  rw [text_eq_textSaying]
  exact spells_textSaying config.said

/-- Whatever is configured, usable or not, is written as a document in which everything is given,
and is the same after it has been read back. -/
theorem written_configuration_reads_back_equal
    (config : Config) :
    SpellsDocument form config.said config.text.toList ∧ parse config.text = .ok config := by
  obtain ⟨outcome, found, given⟩ := exists_parse_eq_ok config.spells_text
  have same : outcome = config := by
    apply ext_get
    intro setting
    rw [given, given?_said]
    rfl
  refine ⟨config.spells_text, ?_⟩
  rw [found, same]

end Config
end SerialShare
