import SerialShare.Frame.Layout

/-!
# Device status

What one complete status frame says about the device.
-/

namespace SerialShare

/-- The four optical relays, packed in one digit the way the device reports them. -/
structure OpticalRelays where
  /-- The digit. -/
  nibble : Fin 16
  deriving DecidableEq, Repr

namespace OpticalRelays

/-- The relays that a digit packs. -/
def ofDigit (digit : Nat) : OpticalRelays := ⟨Fin.ofNat 16 digit⟩

/-- One flag per relay, most significant first. -/
def ofBits (first second third fourth : Bool) : OpticalRelays :=
  let bit (flag : Bool) (weight : Nat) : Nat := if flag then weight else 0
  ofDigit (bit first 8 + bit second 4 + bit third 2 + bit fourth 1)

/-- The flags of all four relays, most significant first. -/
def bits (relays : OpticalRelays) : List Bool :=
  (List.range Frame.opticalCount).reverse.map relays.nibble.val.testBit

/-- The character shown for each relay, most significant first. -/
def symbols (relays : OpticalRelays) : List Char :=
  relays.bits.map fun on => if on then '1' else '0'

end OpticalRelays

/-- A decoded status.  It comes from a complete frame only, so no field holds a placeholder. -/
structure Status where
  /-- Hardware version. -/
  hardwareVersion : UInt8
  /-- Software version. -/
  softwareVersion : UInt8
  /-- Temperature inside the device, in the device's own units. -/
  selfTemperature : UInt8
  /-- State of the electromagnetic relay. -/
  relay : UInt8
  /-- State of the optical relays. -/
  opticalRelays : OpticalRelays
  /-- One byte per dry contact, as reported. -/
  dryContacts : Vector UInt8 Frame.contactCount
  deriving DecidableEq, Repr

/-- A status with some fields filled in, for demonstrations. -/
def Status.example : Status where
  hardwareVersion := 0x12
  softwareVersion := 0x15
  selfTemperature := 0x22
  relay := 0
  opticalRelays := .ofBits false true false true
  dryContacts := Vector.ofFn fun place => if place.val = 2 ∨ place.val = 17 then 0x31 else 0x30

/-- What is known of the device: nothing until a first frame has been decoded, the latest status
from then on. -/
abbrev Snapshot := Option Status

end SerialShare
