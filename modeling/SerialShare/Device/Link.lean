import SerialShare.Log

/-!
# Links to a device

A link is whatever carries bytes to a device and back.  It is given by what it does in each state:
any behaviour can be described, failures at any point included.  Operations take no time.
-/

namespace SerialShare
namespace Device

/-- The answer of a link to one operation. -/
structure Answer (State Result : Type) where
  /-- What the operation gives, or how it fails. -/
  result : Except IoFault Result
  /-- The state of the link afterwards. -/
  state : State
  /-- What the link records. -/
  events : List Log.Event

/-- A byte channel to a device. -/
structure Link (State : Type) where
  /-- What identifies the link to a person. -/
  name : String
  /-- Put bytes on the wire. -/
  write : State → Bytes → Answer State Unit
  /-- Take everything the device has sent since the last time. -/
  read : State → Answer State Bytes

end Device
end SerialShare
