import SerialShare.Text.Utf8

/-!
# Device commands

The commands the device understands, and the bytes they are on the wire.
-/

namespace SerialShare
namespace Device

/-- What every command ends with on the wire. -/
def terminator : Bytes := [0x0D, 0x0A]

/-- The commands the device understands. -/
inductive Command where
  /-- Ask for the status frame. -/
  | statusRequest
  /-- The first auxiliary command.  Its response is read, and nothing is decoded from it. -/
  | auxiliary1576
  /-- The second auxiliary command.  Its response is read, and nothing is decoded from it. -/
  | auxiliaryC105
  deriving DecidableEq, Repr

namespace Command

/-- Every command. -/
def all : List Command := [statusRequest, auxiliary1576, auxiliaryC105]

/-- The commands that follow each status request, in order. -/
def auxiliary : List Command := [auxiliary1576, auxiliaryC105]

/-- The text of a command, without its terminator. -/
def body : Command → String
  | statusRequest => "TSC10173"
  | auxiliary1576 => "TSC11576"
  | auxiliaryC105 => "TSC1C105000000000005"

/-- The bytes to write for a command. -/
def wire (command : Command) : Bytes :=
  Text.utf8 command.body ++ terminator

/-- The command whose bytes these are, if there is one. -/
def ofWire? (bytes : Bytes) : Option Command :=
  all.find? fun command => command.wire == bytes

/-- A command is recognised from its own bytes. -/
@[simp] theorem ofWire?_wire (command : Command) : ofWire? command.wire = some command := by
  cases command <;> decide

/-- Only a command's own bytes are recognised as that command. -/
theorem wire_of_ofWire?
    {bytes : Bytes}
    {command : Command}
    (recognised : ofWire? bytes = some command) :
    command.wire = bytes := by
  simpa using List.find?_some recognised

end Command
end Device
end SerialShare
