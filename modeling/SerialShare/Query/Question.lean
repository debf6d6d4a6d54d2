/-!
# Questions

The vocabulary of clients: one word for each thing they may ask.
-/

namespace SerialShare

/-- What a client may ask for. -/
inductive Question where
  /-- The hardware version. -/
  | hardwareVersion
  /-- The software version. -/
  | softwareVersion
  /-- The temperature inside the device. -/
  | selfTemperature
  /-- The electromagnetic relay. -/
  | relay
  /-- The optical relays. -/
  | opticalRelay
  /-- The dry contacts. -/
  | dryContact
  deriving DecidableEq, Repr

namespace Question

/-- Every question, in the order in which they are listed to clients. -/
def all : List Question :=
  [hardwareVersion, softwareVersion, selfTemperature, relay, opticalRelay, dryContact]

/-- The word that asks a question. -/
def token : Question → String
  | hardwareVersion => "get_hw"
  | softwareVersion => "get_sw"
  | selfTemperature => "get_self_temp"
  | relay => "get_relay"
  | opticalRelay => "get_optical_relay"
  | dryContact => "get_dry_contact"

/-- The question that a line asks, if it is exactly one of the words. -/
def parse? (line : String) : Option Question :=
  all.find? fun question => question.token == line

/-- Every question is listed. -/
theorem mem_all (question : Question) : question ∈ all := by
  cases question <;> decide

/-- A question is recognised from its word. -/
@[simp] theorem parse?_token (question : Question) : parse? question.token = some question := by
  cases question <;> decide

/-- Only a question's own word asks it. -/
theorem token_of_parse?
    {line : String}
    {question : Question}
    (recognised : parse? line = some question) :
    question.token = line := by
  simpa using List.find?_some recognised

end Question
end SerialShare
