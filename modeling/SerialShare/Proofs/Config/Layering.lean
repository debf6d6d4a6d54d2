import SerialShare.Proofs.Config.Reading

/-!
# What is given counts more than what is standard

A text may give any choice of the settings, in any order.  It denotes the configuration with the
values that are given and with the standard ones for all other settings.  So neither the order
matters nor whether a standard value is spelled out.
-/

namespace SerialShare
namespace Config

open Record

/-! ## The same in another way -/

/-- Two sections that give the same, in any order. -/
inductive SameSection : Sigma form.Value → Sigma form.Value → Prop
  /-- One has the entries of the other. -/
  | perm {part : Part} {inside other : part.form.Said} :
      inside.entries.Perm other.entries → SameSection ⟨part, inside⟩ ⟨part, other⟩

/-- Two texts that give the same, with the sections in any order and the settings of each in any
order. -/
def Rearranged (said other : form.Said) : Prop :=
  ∃ middle, said.entries.Perm middle ∧ List.Forall₂ SameSection middle other.entries

/-- A section without one of the settings. -/
def Part.without (setting : Setting) (part : Part) (inside : part.form.Said) : part.form.Said :=
  if same : setting.part = part then inside.erase ⟨setting, same⟩ else inside

/-- What a text says without one of the settings. -/
def without (said : form.Said) (setting : Setting) : form.Said where
  entries := said.entries.map fun entry => ⟨entry.1, entry.1.without setting entry.2⟩
  distinct := said.distinct.map₂ (Part.without setting)

/-- A text denotes a configuration however it is spelled, and there is a text that does. -/
structure Denotes (said : form.Said) (config : Config) : Prop where
  /-- There is a text. -/
  exists_text : ∃ text : String, SpellsDocument form said text.toList
  /-- Every text is read as this configuration. -/
  parse_eq_ok : ∀ text : String, SpellsDocument form said text.toList → parse text = .ok config

/-! ## What is given -/

theorem dlookup_bind_of_forall₂
    {sections others : List (Sigma form.Value)}
    (same : List.Forall₂ SameSection sections others)
    {part : Part}
    (field : part.form.Field) :
    (sections.dlookup part).bind (fun inside => inside.value? field) =
      (others.dlookup part).bind fun inside => inside.value? field := by
  induction same with
  | nil => rfl
  | @cons first second sections others isSame _ inductionHypothesis =>
      obtain @⟨firstPart, inside, other, isPerm⟩ := isSame
      by_cases found : part = firstPart
      · subst found
        rw [List.dlookup_cons_eq, List.dlookup_cons_eq]
        exact List.perm_dlookup field inside.distinct isPerm
      · rw [List.dlookup_cons_ne _ _ found, List.dlookup_cons_ne _ _ found]
        exact inductionHypothesis

/-- The order does not change what a setting is given. -/
theorem Rearranged.given?_eq
    {said other : form.Said}
    (rearranged : Rearranged said other)
    (setting : Setting) :
    given? other setting = given? said setting := by
  obtain ⟨middle, isPerm, isSame⟩ := rearranged
  rw [given?, given?, Form.Said.value?, Form.Said.value?,
    List.perm_dlookup setting.part said.distinct isPerm]
  exact (dlookup_bind_of_forall₂ isSame setting.field).symm

theorem Part.value?_without
    {part : Part}
    (inside : part.form.Said)
    (setting : Setting)
    (field : part.form.Field) :
    (part.without setting inside).value? field =
      if field.1 = setting then none else inside.value? field := by
  rw [without]
  split_ifs with isPart found found
  · rw [Form.Said.value?_erase, if_pos (Subtype.ext found)]
  · rw [Form.Said.value?_erase, if_neg fun same => found (congrArg Subtype.val same)]
  · exact absurd (found ▸ field.2) isPart
  · rfl

theorem given?_without
    (said : form.Said)
    (setting other : Setting) :
    given? (without said setting) other = if other = setting then none else given? said other := by
  have sections : (without said setting).value? other.part =
      (said.value? other.part).map (other.part.without setting) :=
    List.dlookup_map₂ other.part
  rw [given?, given?, sections]
  cases said.value? other.part with
  | none => simp
  | some inside => exact Part.value?_without inside setting other.field

theorem given?_erase
    (said : form.Said)
    (part : Part)
    (setting : Setting) :
    given? (said.erase part) setting =
      if setting.part = part then none else given? said setting := by
  rw [given?, Form.Said.value?_erase]
  split_ifs
  · rfl
  · rfl

/-! ## What is denoted -/

/-- A text denotes the configuration with the values that it gives to settings and the standard
values for all others. -/
theorem denotes_of_given?
    {said : form.Said}
    {config : Config}
    (given : ∀ setting, config.get setting = (given? said setting).getD (standard.get setting)) :
    Denotes said config := by
  refine ⟨⟨textSaying said, spells_textSaying said⟩, ?_⟩
  intro text spells
  obtain ⟨outcome, found, holds⟩ := exists_parse_eq_ok spells
  rw [found, ext_get fun setting => (holds setting).trans (given setting).symm]

/-- Whatever a text gives of the settings, it denotes the configuration with these values and with
the standard ones for all others, in each of its spellings.  It does so with the sections in any
order and the settings of each in any order, without a setting that it gives its standard value, and
without a section in which it gives no others. -/
theorem given_settings_are_laid_over_standard
    (said : form.Said) :
    ∃ config : Config,
      (∀ setting, config.get setting = (given? said setting).getD (standard.get setting)) ∧
      Denotes said config ∧
      (∀ other, Rearranged said other → Denotes other config) ∧
      (∀ setting, given? said setting = some (standard.get setting) →
        Denotes (without said setting) config) ∧
      ∀ part : Part,
        (∀ setting, setting.part = part → config.get setting = standard.get setting) →
          Denotes (said.erase part) config := by
  obtain ⟨config, _, given⟩ := exists_parse_eq_ok (spells_textSaying said)
  refine ⟨config, given, denotes_of_given? given, ?_, ?_, ?_⟩
  · intro other rearranged
    apply denotes_of_given?
    intro setting
    rw [rearranged.given?_eq, given]
  · intro omitted isStandard
    apply denotes_of_given?
    intro setting
    rw [given?_without, given]
    split_ifs with same
    · rw [same, isStandard]
      rfl
    · rfl
  · intro part isStandard
    apply denotes_of_given?
    intro setting
    rw [given?_erase]
    split_ifs with inPart
    · exact isStandard setting inPart
    · exact given setting

/-- A section on the device in which the rate comes last. -/
def rateLast : (Part.form .device).Said :=
  ⟨[⟨Setting.mock.field, false⟩, ⟨Setting.path.field, "C:\\a"⟩,
      ⟨Setting.baud.field, (9600 : UInt32)⟩],
    (by decide : List.Nodup [_, _, _])⟩

/-- The same section with the rate in front. -/
def rateFirst : (Part.form .device).Said :=
  ⟨[⟨Setting.baud.field, (9600 : UInt32)⟩, ⟨Setting.mock.field, false⟩,
      ⟨Setting.path.field, "C:\\a"⟩],
    (by decide : List.Nodup [_, _, _])⟩

/-- A section with half a second for a response. -/
def halfSecond : (Part.form .timing).Said :=
  ⟨[⟨Setting.latency.field, (500 : UInt64)⟩], List.nodupKeys_singleton _⟩

/-- A text that gives a wait before it says anything about the device. -/
def waitFirst : form.Said :=
  ⟨[⟨.timing, halfSecond⟩, ⟨.device, rateLast⟩], (by decide : List.Nodup [_, _])⟩

/-- A text that gives the same in another order. -/
def waitLast : form.Said :=
  ⟨[⟨.device, rateFirst⟩, ⟨.timing, halfSecond⟩], (by decide : List.Nodup [_, _])⟩

/-- A spelling of the text that gives the wait first. -/
def waitFirstText : String :=
  "#![enable(implicit_some)] // waits\n" ++
    "Config(timing: (response_latency_ms: 0x1_f4), " ++
    "device: DeviceConfig(mock: false, path: r\"C:\\a\", baud: 9600,))"

/-- What the text denotes. -/
def waitFirstOutcome : Config :=
  ⟨⟨"C:\\a", 9600, false⟩, .standard, ⟨Timing.standard.settle, 500⟩⟩

theorem spells_waitFirst : SpellsDocument form waitFirst waitFirstText.toList := by
  have latency : SpellsNumber 500 "0x1_f4".toList :=
    .digits (by decide : (16, ['0', 'x']) ∈ baseMarks) (by decide)
  have path : SpellsText "C:\\a".toList "r\"C:\\a\"".toList := @SpellsText.raw _ 0 (by decide)
  have baud : SpellsNumber 9600 "9600".toList :=
    .digits (by decide : (10, []) ∈ baseMarks) (by decide)
  have space : Blanks [' '] := .space rfl .none
  have timing : SpellsRecord (Part.form .timing) halfSecond _ :=
    .unnamed (.last (.entry .none .plain .none space latency) .none)
  have device : SpellsRecord (Part.form .device) rateLast _ :=
    .named .plain .none (.more (.entry .none .plain .none space rfl) .none
      (.more (.entry space .plain .none space path) .none
        (.more (.entry space .plain .none space baud) .none (.none .none))))
  have record : SpellsRecord form waitFirst _ :=
    .named .plain .none (.more (.entry .none .plain .none space timing) .none
      (.last (.entry space .plain .none space device) .none))
  have extension : SpellsExtension _ :=
    .name (by decide : "implicit_some" ∈ extensions) .plain .none
  have comment : Blanks " // waits\n".toList :=
    .space rfl (.line (by decide : '\n' ∉ " waits".toList) .none)
  have head : SpellsHead _ :=
    .more (.enable .none .none .none .none .none (.last extension) .none comment) .none
  have nothing : LastBlanks [] := Blanks.space rfl .none
  have document := SpellsDocument.record .none head record nothing
  convert document using 1
  decide +kernel

theorem rearranged_waitFirst : Rearranged waitFirst waitLast := by
  refine ⟨[⟨.device, rateLast⟩, ⟨.timing, halfSecond⟩], .swap .., .cons ?_ (.cons ?_ .nil)⟩
  · exact .perm (.trans (.cons _ (.swap ..)) (.swap ..))
  · exact .perm (.refl _)

theorem given_settings_are_laid_over_standard_with_a_wait_first :
    parse waitFirstText = .ok waitFirstOutcome ∧ Denotes waitLast waitFirstOutcome ∧
      Denotes (without waitFirst .mock) waitFirstOutcome ∧
      Denotes (waitFirst.erase .server) waitFirstOutcome := by
  obtain ⟨config, given, denotes, inAnyOrder, withoutStandard, withoutSection⟩ :=
    given_settings_are_laid_over_standard waitFirst
  have outcome : config = waitFirstOutcome := by
    apply ext_get
    intro setting
    rw [given]
    cases setting <;> rfl
  subst outcome
  refine ⟨denotes.parse_eq_ok _ spells_waitFirst, inAnyOrder _ rearranged_waitFirst,
    withoutStandard .mock rfl, withoutSection .server ?_⟩
  rintro setting isServer
  cases setting <;> cases isServer <;> rfl

end Config
end SerialShare
