import SerialShare.Log

/-!
# Serial ports

The port that a device is attached to, and what is recorded while it is opened.
-/

namespace SerialShare
namespace Device

/-- The rate at which the device talks unless told otherwise. -/
def defaultBaud : UInt32 := 57600

/-- A serial port. -/
structure Port where
  /-- Its path. -/
  path : String
  /-- The rate of the line. -/
  baud : UInt32
  deriving DecidableEq, Repr

/-- Open a port, given what that comes to, with what is recorded. -/
def Port.open {Result : Type} (port : Port) (outcome : Port → Except IoFault Result) :
    Except Fault Result × List Log.Event :=
  let opening := Log.Event.portOpening port.path port.baud
  match outcome port with
  | .ok result => (.ok result, [opening, .portOpened port.path])
  | .error source => (.error (.deviceIo port.path source), [opening])

end Device
end SerialShare
