import SerialShare.Frame.Status
import SerialShare.Text.Numeral

/-!
# Reading and writing status frames

A frame is read field by field, and rejected as a whole at the first field that does not hold what
its encoding asks for.  Bytes outside the fields, and beyond the last one, are not looked at.
Writing starts from a header and zeros, and puts one field after the other over them.
-/

namespace SerialShare
namespace Frame

/-- Why a frame is rejected. -/
inductive Malformed where
  /-- There are too few bytes to hold every field. -/
  | tooShort (length : Nat)
  /-- A field does not hold what its encoding asks for. -/
  | badField (field : Field) (found : String)
  deriving DecidableEq, Repr

/-- The text of a rejection. -/
def Malformed.message : Malformed → String
  | .tooShort length =>
    "Frame is " ++ length.repr ++ " characters long, at least " ++ frameLength.repr ++
      " are needed"
  | .badField field found =>
    "Field `" ++ field.name ++ "` at " ++ field.start.repr ++ ".." ++ field.stop.repr ++
      " is not " ++ field.encoding.text ++ ": `" ++ found ++ "`"

/-! ## Reading -/

/-- Read one field, or report it. -/
def Field.read {α : Type} (field : Field) (parse? : Bytes → Option α) (frame : Bytes) :
    Except Malformed α :=
  match parse? (field.slice frame) with
  | some value => .ok value
  | none => .error (.badField field (Text.lossy (field.slice frame)))

/-- The value of a byte as a hexadecimal digit of either case. -/
def hexDigit? (byte : UInt8) : Option Nat :=
  Text.digitIn? 16 (Char.ofUInt8 byte)

/-- Two hexadecimal digits. -/
def hexByte? : Bytes → Option UInt8
  | [high, low] => do
    let high ← hexDigit? high
    let low ← hexDigit? low
    some (UInt8.ofNat (16 * high + low))
  | _ => none

/-- One decimal digit. -/
def decimalDigit? : Bytes → Option UInt8
  | [byte] => (Text.digitIn? 10 (Char.ofUInt8 byte)).map UInt8.ofNat
  | _ => none

/-- One hexadecimal digit that packs the optical relays. -/
def opticalRelays? : Bytes → Option OpticalRelays
  | [byte] => (hexDigit? byte).map OpticalRelays.ofDigit
  | _ => none

/-- Whether a byte is an ASCII control character. -/
def isControl (byte : UInt8) : Bool :=
  byte < 0x20 || byte == 0x7F

/-- One byte per contact, none of them a control character. -/
def contacts? (bytes : Bytes) : Option (Vector UInt8 contactCount) :=
  if bytes.any isControl then none
  else if sized : bytes.toArray.size = contactCount then some ⟨bytes.toArray, sized⟩
  else none

/-- Read a frame.  The fields are looked at in the order of the lines, and the first one that
cannot be read is reported. -/
def decode (frame : Bytes) : Except Malformed Status :=
  if frame.length < frameLength then .error (.tooShort frame.length)
  else do
    let hardwareVersion ← Frame.hardwareVersion.read hexByte? frame
    let softwareVersion ← Frame.softwareVersion.read hexByte? frame
    let selfTemperature ← Frame.selfTemperature.read hexByte? frame
    let relay ← Frame.relay.read decimalDigit? frame
    let opticalRelays ← Frame.opticalRelay.read opticalRelays? frame
    let dryContacts ← Frame.dryContact.read contacts? frame
    .ok {
      hardwareVersion, softwareVersion, selfTemperature, relay, opticalRelays, dryContacts }

/-! ## Writing -/

/-- The upper-case hexadecimal digit of a value below sixteen. -/
def hexDigit (value : Nat) : UInt8 :=
  if value < 10 then UInt8.ofNat (0x30 + value) else UInt8.ofNat (0x37 + value)

/-- A byte as two hexadecimal digits. -/
def hexByte (byte : UInt8) : Bytes :=
  [hexDigit (byte.toNat / 16), hexDigit (byte.toNat % 16)]

/-- What a written frame starts with. -/
def header : Bytes := Text.utf8 "TSC1"

/-- A frame without any field: the header, and zeros up to the end. -/
def blank : Bytes := header ++ List.replicate (frameLength - header.length) 0x30

/-- Write bytes over those of a field, as many of them as it has room for. -/
def Field.put (field : Field) (bytes frame : Bytes) : Bytes :=
  frame.take field.start ++ bytes.take field.width ++
    frame.drop (field.start + min field.width bytes.length)

/-- What a status comes to in each field.  Only the last decimal digit of the relay's state fits. -/
def written (status : Status) : List (Field × Bytes) :=
  [(hardwareVersion, hexByte status.hardwareVersion),
    (softwareVersion, hexByte status.softwareVersion),
    (opticalRelay, [hexDigit status.opticalRelays.nibble]),
    (relay, [hexDigit (status.relay.toNat % 10)]),
    (dryContact, status.dryContacts.toList),
    (selfTemperature, hexByte status.selfTemperature)]

/-- Write fields over a frame, one after the other. -/
def write (frame : Bytes) (entries : List (Field × Bytes)) : Bytes :=
  entries.foldl (fun frame entry => entry.1.put entry.2 frame) frame

/-- Write a status as a frame. -/
def encode (status : Status) : Bytes :=
  write blank (written status)

/-- Writing over a field that ends within a frame leaves the frame as long as it was. -/
theorem Field.length_put
    {field : Field}
    {frame : Bytes}
    (inside : field.stop ≤ frame.length)
    (bytes : Bytes) :
    (field.put bytes frame).length = frame.length := by
  simp only [Field.put, Field.width, List.length_append, List.length_take, List.length_drop]
  omega

theorem length_write
    {frame : Bytes}
    {entries : List (Field × Bytes)}
    (inside : ∀ entry ∈ entries, entry.1.stop ≤ frame.length) :
    (write frame entries).length = frame.length := by
  induction entries generalizing frame with
  | nil => rfl
  | cons entry later inductionHypothesis =>
    have first := Field.length_put (inside entry List.mem_cons_self) entry.2
    refine (inductionHypothesis fun other present => ?_).trans first
    rw [first]
    exact inside other (List.mem_cons_of_mem entry present)

/-- What is written are the fields, in the order of their positions. -/
@[simp] theorem map_fst_written (status : Status) : (written status).map Prod.fst = fields := rfl

theorem fst_mem_fields
    {status : Status}
    {entry : Field × Bytes}
    (present : entry ∈ written status) :
    entry.1 ∈ fields := by
  rw [← map_fst_written status]
  exact List.mem_map_of_mem present

@[simp] theorem length_blank : blank.length = frameLength := by decide

/-- A written frame has exactly the bytes it needs. -/
@[simp] theorem length_encode (status : Status) : (encode status).length = frameLength := by
  refine (length_write fun entry present => ?_).trans length_blank
  rw [length_blank]
  exact stop_le_frameLength entry.1 (fst_mem_fields present)

end Frame
end SerialShare
