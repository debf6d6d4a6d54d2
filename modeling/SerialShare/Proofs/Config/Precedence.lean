import Mathlib.Data.List.TakeWhile
import SerialShare.Program

/-!
# What the command line says counts for more

The configuration that the service runs with is that of the file, or the standard one, with what the
command line says laid over it.  Only this configuration is judged: values that cannot be used do no
harm in a file when they are laid over, and flags can do as much harm as a file.
-/

namespace SerialShare
namespace Text

/-- Trimming leaves nothing exactly of a text of blank characters. -/
theorem isEmpty_trim_iff
    (text : String) :
    (trim text).isEmpty = true ↔ ∀ character ∈ text.toList, isBlank character = true := by
  rw [trim, String.isEmpty_iff, ← String.toList_eq_nil_iff, String.toList_ofList,
    List.reverse_eq_nil_iff, List.dropWhile_eq_nil_iff]
  constructor
  · intro blank
    cases left : text.toList.dropWhile isBlank with
    | nil => exact List.dropWhile_eq_nil_iff.mp left
    | cons first later =>
        -- What is left after dropping blanks does not start with one.
        have shown : isBlank first = false := by
          have head := List.head?_dropWhile_not isBlank text.toList
          simpa [left] using head
        have hidden := blank first (by simp [left])
        rw [shown] at hidden
        cases hidden
  · intro blank
    rw [List.dropWhile_eq_nil_iff.mpr blank]
    exact nofun

end Text

namespace Config

/-- There is a device to poll: the mock device, or one whose path is not blank. -/
def HasDevice (config : Config) : Prop :=
  config.device.mock = true ∨
    ∃ character ∈ config.device.path.toList, Text.isBlank character = false

theorem not_hasDevice_iff
    (config : Config) :
    ¬ config.HasDevice ↔
      config.device.mock = false ∧ (Text.trim config.device.path).isEmpty = true := by
  rw [HasDevice, Text.isEmpty_trim_iff]
  simp

/-- A verdict names the first thing that a configuration lacks: a device, a rate of the line, time
for the device to respond. -/
structure Judged (config : Config) (verdict : Option Problem) : Prop where
  /-- Nothing is wrong when nothing is missing. -/
  usable : verdict = none ↔
    config.HasDevice ∧ config.device.baud ≠ 0 ∧ config.timing.latency ≠ 0
  /-- The device comes first. -/
  device : verdict = some .noDevicePath ↔ ¬ config.HasDevice
  /-- Then comes the rate of the line. -/
  baud : verdict = some .zeroBaud ↔ config.HasDevice ∧ config.device.baud = 0
  /-- The time to respond comes last. -/
  latency : verdict = some .zeroLatency ↔
    config.HasDevice ∧ config.device.baud ≠ 0 ∧ config.timing.latency = 0

theorem judged_problem?
    (config : Config) :
    config.Judged config.problem? := by
  by_cases device : config.HasDevice
  · have notMissing := mt (not_hasDevice_iff config).mpr (not_not_intro device)
    by_cases baud : config.device.baud = 0
    · have verdict : config.problem? = some .zeroBaud := by
        rw [problem?, if_neg notMissing, if_pos baud]
      constructor <;> simp [verdict, device, baud]
    · by_cases latency : config.timing.latency = 0
      · have verdict : config.problem? = some .zeroLatency := by
          rw [problem?, if_neg notMissing, if_neg baud, if_pos latency]
        constructor <;> simp [verdict, device, baud, latency]
      · have verdict : config.problem? = none := by
          rw [problem?, if_neg notMissing, if_neg baud, if_neg latency]
        constructor <;> simp [verdict, device, baud, latency]
  · have verdict : config.problem? = some .noDevicePath := by
      rw [problem?, if_pos ((not_hasDevice_iff config).mp device)]
    constructor <;> simp [verdict, device]

end Config

namespace Program

open CommandLine (Arguments)

/-- A command line asks for the service and says something, the log can be kept, and there is a
configuration to lay this over. -/
structure Begun (host : Host) (words : List String) (arguments : Arguments) (base : Config) :
    Prop where
  /-- This is what the command line says. -/
  read : CommandLine.parse words = .ok arguments
  /-- It asks for nothing else than the service. -/
  service : arguments.task = none
  /-- The log can be kept, if there is to be one. -/
  logged : openLog host arguments = .ok ()
  /-- This is the configuration of the file, or the standard one. -/
  based : baseConfiguration host arguments = .ok base

variable {host : Host} {words : List String} {arguments : Arguments} {base : Config}

/-- A program that has begun stops at the problem of what the service would run with, and sets up
the service when there is none. -/
theorem start_of_begun
    (begun : Begun host words arguments base) :
    start host words =
      match (arguments.laidOver base).problem? with
      | some problem => .failed (.unusable problem)
      | none =>
        match serve host (arguments.laidOver base) with
        | .ok () => .running (arguments.laidOver base)
        | .error fault => .failed (.faulty fault) := by
  simp only [start, begun.read, begun.service, begun.logged, configuration, begun.based]
  cases (arguments.laidOver base).problem? <;> rfl

theorem start_eq_unusable_iff
    (begun : Begun host words arguments base)
    (problem : Config.Problem) :
    start host words = .failed (.unusable problem) ↔
      (arguments.laidOver base).problem? = some problem := by
  rw [start_of_begun begun]
  cases (arguments.laidOver base).problem? with
  | some found => simp
  | none => cases serve host (arguments.laidOver base) <;> simp

end Program

namespace CommandLine

/-- Each setting is that of the command line where it gives one, and else that of the configuration
below; the mock device is polled when either of them says so, and the waits stay as they are.
Laying the same command line over once more changes nothing.

The program stops at the first thing that is missing from the outcome, and at nothing else: two
programs with the same outcome stop alike, and no command line makes up for a device that is given
no time to respond. -/
theorem flags_count_more_and_outcome_is_judged
    (arguments : Arguments)
    (base : Config) :
    let outcome := arguments.laidOver base
    (outcome.device.path = arguments.device.getD base.device.path ∧
      outcome.device.baud = arguments.baud.getD base.device.baud ∧
      outcome.server.host = arguments.host.getD base.server.host ∧
      outcome.server.port = arguments.port.getD base.server.port ∧
      (outcome.device.mock = true ↔ arguments.mock = true ∨ base.device.mock = true) ∧
      outcome.timing = base.timing) ∧
    arguments.laidOver outcome = outcome ∧
    outcome.Judged outcome.problem? ∧
    ∀ host words, Program.Begun host words arguments base →
      (∀ problem, Program.start host words = .failed (.unusable problem) ↔
        outcome.problem? = some problem) ∧
      (∀ otherHost otherWords other otherBase,
        Program.Begun otherHost otherWords other otherBase →
        other.laidOver otherBase = outcome →
        ∀ problem, Program.start otherHost otherWords = .failed (.unusable problem) ↔
          Program.start host words = .failed (.unusable problem)) ∧
      (base.timing.latency = 0 →
        ∃ problem, Program.start host words = .failed (.unusable problem)) := by
  intro outcome
  have mock : outcome.device.mock = true ↔ arguments.mock = true ∨ base.device.mock = true := by
    rw [or_comm]
    exact Bool.or_eq_true_iff
  have again : arguments.laidOver outcome = outcome := by
    have twice {Value : Type} (given : Option Value) (value : Value) :
        given.getD (given.getD value) = given.getD value := by
      cases given <;> rfl
    simp only [outcome, Arguments.laidOver, twice, Bool.or_assoc, Bool.or_self]
  refine ⟨⟨rfl, rfl, rfl, rfl, mock, rfl⟩, again, Config.judged_problem? outcome, ?_⟩
  intro host words begun
  refine ⟨Program.start_eq_unusable_iff begun, ?_, ?_⟩
  · intro otherHost otherWords other otherBase otherBegun same problem
    rw [Program.start_eq_unusable_iff begun, Program.start_eq_unusable_iff otherBegun, same]
  · intro noTime
    have missing : outcome.problem? ≠ none := by
      intro usable
      exact ((Config.judged_problem? outcome).usable.mp usable).2.2 noTime
    obtain ⟨problem, found⟩ := Option.ne_none_iff_exists'.mp missing
    exact ⟨problem, (Program.start_eq_unusable_iff begun problem).mpr found⟩

/-- A host with one file, in which nothing is usable but the path of the device. -/
def hostOfOneFile : Host :=
  { fileContents := fun _ =>
      .ok (Text.utf8 "(device: (baud: 0), timing: (response_latency_ms: 0))")
    openLog := fun _ => .ok ()
    openPort := fun _ => .ok ()
    listen := fun _ => .ok ()
    reach := fun _ _ => .error ⟨.connectionRefused, ""⟩ }

/-- What the command line says that gives a file, a rate and perhaps a path. -/
def rateAnd (device : Option String) : Arguments :=
  { Arguments.empty with configPath := some "bridge.ron", baud := some 9600, device }

/-- What the file holds. -/
def baseOfOneFile : Config :=
  ⟨⟨"/dev/ttyUSB0", 0, false⟩, .standard, ⟨700, 0⟩⟩

/-- The rate on the command line mends that of the file, and then the time to respond is what
stops the program.  To say in addition what the standard says makes no difference. -/
theorem flags_count_more_and_outcome_is_judged_over_a_file :
    Program.Begun hostOfOneFile ["--baud", "9600", "bridge.ron"] (rateAnd none) baseOfOneFile ∧
    Program.start hostOfOneFile ["--baud", "9600", "bridge.ron"] =
      .failed (.unusable .zeroLatency) ∧
    Program.start hostOfOneFile ["--baud=9600", "bridge.ron", "--device", "/dev/ttyUSB0"] =
      .failed (.unusable .zeroLatency) ∧
    ∃ problem, Program.start hostOfOneFile ["--baud", "9600", "bridge.ron"] =
      .failed (.unusable problem) := by
  have begun : Program.Begun hostOfOneFile ["--baud", "9600", "bridge.ron"]
      (rateAnd none) baseOfOneFile :=
    ⟨by decide +kernel, rfl, rfl, by decide +kernel⟩
  have otherBegun : Program.Begun hostOfOneFile
      ["--baud=9600", "bridge.ron", "--device", "/dev/ttyUSB0"]
      (rateAnd (some "/dev/ttyUSB0")) baseOfOneFile :=
    ⟨by decide +kernel, rfl, rfl, by decide +kernel⟩
  obtain ⟨-, -, -, decided⟩ :=
    flags_count_more_and_outcome_is_judged (rateAnd none) baseOfOneFile
  obtain ⟨stops, alike, unmended⟩ := decided _ _ begun
  have stopped := (stops .zeroLatency).mpr (by decide +kernel)
  exact ⟨begun, stopped, (alike _ _ _ _ otherBegun rfl .zeroLatency).mpr stopped, unmended rfl⟩

end CommandLine
end SerialShare
