import SerialShare.Text.Utf8

/-!
# Where each field lives in a status frame

Positions count bytes from the start of the frame.  Both reading and writing go by this table.
-/

namespace SerialShare
namespace Frame

/-- How the bytes of a field are to be read. -/
inductive Encoding where
  /-- Hexadecimal digits of either case. -/
  | hex
  /-- A single decimal digit. -/
  | decimal
  /-- One hexadecimal digit that stands for its four bits, most significant first. -/
  | nibble
  /-- Bytes kept as they are, as long as none is a control character. -/
  | raw
  deriving DecidableEq, Repr

/-- What an encoding asks for, in words. -/
def Encoding.text : Encoding → String
  | .hex => "hex"
  | .decimal => "decimal"
  | .nibble => "hex nibble"
  | .raw => "free of control characters"

/-- A named region of a frame. -/
structure Field where
  /-- The name shown to a person. -/
  name : String
  /-- The position of the first byte. -/
  start : Nat
  /-- The position after the last byte. -/
  stop : Nat
  /-- How to read the bytes. -/
  encoding : Encoding
  deriving DecidableEq, Repr

/-- The number of bytes of a field. -/
def Field.width (field : Field) : Nat :=
  field.stop - field.start

/-- The bytes of a frame that belong to a field. -/
def Field.slice (field : Field) (frame : Bytes) : Bytes :=
  (frame.drop field.start).take field.width

/-- The hardware version. -/
def hardwareVersion : Field := ⟨"hardware version", 6, 8, .hex⟩

/-- The software version. -/
def softwareVersion : Field := ⟨"software version", 8, 10, .hex⟩

/-- The optical relays, four of them in one digit. -/
def opticalRelay : Field := ⟨"optical relay", 15, 16, .nibble⟩

/-- The electromagnetic relay. -/
def relay : Field := ⟨"relay", 19, 20, .decimal⟩

/-- The dry contacts, one byte each. -/
def dryContact : Field := ⟨"dry contact", 20, 40, .raw⟩

/-- The temperature inside the device. -/
def selfTemperature : Field := ⟨"self temperature", 40, 42, .hex⟩

/-- Every field, by position. -/
def fields : List Field :=
  [hardwareVersion, softwareVersion, opticalRelay, relay, dryContact, selfTemperature]

/-- A frame with fewer bytes cannot hold every field. -/
def frameLength : Nat := 42

/-- The number of dry contacts. -/
def contactCount : Nat := 20

/-- The number of optical relays. -/
def opticalCount : Nat := 4

/-- The fields follow one another without overlap. -/
theorem fields_pairwise_disjoint :
    fields.Pairwise fun earlier later => earlier.stop ≤ later.start := by
  decide

/-- Every field ends within the frame. -/
theorem stop_le_frameLength : ∀ field ∈ fields, field.stop ≤ frameLength := by
  decide

end Frame
end SerialShare
