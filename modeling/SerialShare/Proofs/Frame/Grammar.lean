import Mathlib.Data.Nat.Init
import SerialShare.Frame.Codec

/-!
# The grammar of status frames

What a frame has to look like, said byte by byte and without a parser: which bytes an encoding
admits, which positions it is asked for at, and what the bytes then stand for.

The main statement is that reading accepts exactly the frames of the grammar, gives what their bytes
stand for, and otherwise reports the first field that offends, in the order in which fields are
inspected.
-/

namespace SerialShare
namespace Frame

/-! ## Bytes -/

/-- A decimal digit. -/
def IsDecimalDigit (byte : UInt8) : Prop :=
  0x30 ≤ byte ∧ byte ≤ 0x39

/-- A hexadecimal digit of either case. -/
def IsHexDigit (byte : UInt8) : Prop :=
  IsDecimalDigit byte ∨ (0x41 ≤ byte ∧ byte ≤ 0x46) ∨ (0x61 ≤ byte ∧ byte ≤ 0x66)

/-- A control character: one of the first 32, or the last one. -/
def IsControlCharacter (byte : UInt8) : Prop :=
  byte ≤ 0x1F ∨ byte = 0x7F

instance (byte : UInt8) : Decidable (IsDecimalDigit byte) :=
  inferInstanceAs (Decidable (_ ∧ _))

instance (byte : UInt8) : Decidable (IsHexDigit byte) :=
  inferInstanceAs (Decidable (_ ∨ _))

instance (byte : UInt8) : Decidable (IsControlCharacter byte) :=
  inferInstanceAs (Decidable (_ ∨ _))

/-- The value of a hexadecimal digit. -/
def hexValue (byte : UInt8) : Nat :=
  if byte ≤ 0x39 then byte.toNat - 0x30
  else if byte ≤ 0x46 then byte.toNat - 0x41 + 10
  else byte.toNat - 0x61 + 10

/-- What an encoding asks for of every byte of a field. -/
def Encoding.Admits : Encoding → UInt8 → Prop
  | .hex, byte => IsHexDigit byte
  | .decimal, byte => IsDecimalDigit byte
  | .nibble, byte => IsHexDigit byte
  | .raw, byte => ¬IsControlCharacter byte

instance (encoding : Encoding) (byte : UInt8) : Decidable (encoding.Admits byte) :=
  match encoding with
  | .hex => inferInstanceAs (Decidable (IsHexDigit byte))
  | .decimal => inferInstanceAs (Decidable (IsDecimalDigit byte))
  | .nibble => inferInstanceAs (Decidable (IsHexDigit byte))
  | .raw => inferInstanceAs (Decidable ¬IsControlCharacter byte)

/-! ## Fields -/

/-- The byte of a frame at a position within it. -/
def byteAt (frame : Bytes) (place : Nat) : UInt8 := frame.getD place 0

theorem byteAt_eq_getElem
    {frame : Bytes}
    {place : Nat}
    (inside : place < frame.length) :
    byteAt frame place = frame[place] :=
  (List.getElem_eq_getD 0).symm

/-- The fields in the order in which they are inspected, which is not that of their positions. -/
def inspected : List Field :=
  [⟨"hardware version", 6, 8, .hex⟩, ⟨"software version", 8, 10, .hex⟩,
    ⟨"self temperature", 40, 42, .hex⟩, ⟨"relay", 19, 20, .decimal⟩,
    ⟨"optical relay", 15, 16, .nibble⟩, ⟨"dry contact", 20, 40, .raw⟩]

/-- Every byte of a field is one that its encoding admits. -/
def Field.Holds (field : Field) (frame : Bytes) : Prop :=
  ∀ place, field.start ≤ place → place < field.stop →
    field.encoding.Admits (byteAt frame place)

instance (field : Field) (frame : Bytes) : Decidable (field.Holds frame) :=
  inferInstanceAs (Decidable (∀ place, field.start ≤ place → place < field.stop → _))

/-- The first field that does not hold what its encoding asks for. -/
def firstOffender? (frame : Bytes) : Option Field :=
  inspected.find? fun field => ¬field.Holds frame

/-- The number that two hexadecimal digits from a position on spell. -/
def hexNumber (frame : Bytes) (place : Nat) : Nat :=
  16 * hexValue (byteAt frame place) + hexValue (byteAt frame (place + 1))

/-- A status says what the bytes of a frame stand for. -/
structure Describes (frame : Bytes) (status : Status) : Prop where
  /-- Two hexadecimal digits. -/
  hardwareVersion : status.hardwareVersion.toNat = hexNumber frame 6
  /-- Two hexadecimal digits. -/
  softwareVersion : status.softwareVersion.toNat = hexNumber frame 8
  /-- Two hexadecimal digits. -/
  selfTemperature : status.selfTemperature.toNat = hexNumber frame 40
  /-- The value of a decimal digit. -/
  relay : status.relay.toNat = (byteAt frame 19).toNat - 0x30
  /-- The value of a hexadecimal digit. -/
  opticalRelays : status.opticalRelays.nibble.val = hexValue (byteAt frame 15)
  /-- The four binary digits of that value, most significant first. -/
  opticalBits : ∃ first second third fourth : Bool,
    status.opticalRelays.bits = [first, second, third, fourth] ∧
      8 * first.toNat + 4 * second.toNat + 2 * third.toNat + fourth.toNat =
        hexValue (byteAt frame 15)
  /-- The bytes themselves. -/
  dryContacts : status.dryContacts.toList = (frame.drop 20).take 20

/-! ## How a field is read -/

/-- A fact about bytes has to be checked for 256 of them. -/
theorem forall_byte
    {property : UInt8 → Prop}
    (each : ∀ value : Fin 256, property (UInt8.ofFin value))
    (byte : UInt8) : property byte :=
  each byte.toFin

theorem hexDigit?_eq (byte : UInt8) :
    hexDigit? byte = if IsHexDigit byte then some (hexValue byte) else none := by
  revert byte
  refine forall_byte ?_
  decide +kernel

theorem hexValue_lt
    {byte : UInt8}
    (digit : IsHexDigit byte) :
    hexValue byte < 16 := by
  have all : ∀ byte, IsHexDigit byte → hexValue byte < 16 := by
    refine forall_byte ?_
    decide +kernel
  exact all byte digit

theorem decimalDigit?_eq (byte : UInt8) :
    decimalDigit? [byte] = if IsDecimalDigit byte then some (byte - 0x30) else none := by
  revert byte
  refine forall_byte ?_
  decide +kernel

theorem isControl_eq (byte : UInt8) : isControl byte = decide (IsControlCharacter byte) := by
  revert byte
  refine forall_byte ?_
  decide +kernel

/-- The bytes of a field that lies within a frame are those at its positions. -/
theorem Field.slice_eq
    {field : Field}
    {frame : Bytes}
    (inside : field.stop ≤ frame.length) :
    field.slice frame = (List.range' field.start field.width).map (byteAt frame) := by
  apply List.ext_getElem
  · simp only [slice, width, List.length_take, List.length_drop, List.length_map,
      List.length_range']
    omega
  · intro index inSlice inRange
    simp only [slice, List.length_take, List.length_drop] at inSlice
    simp only [slice, List.getElem_take, List.getElem_drop, List.getElem_map,
      List.getElem_range', Nat.one_mul]
    rw [byteAt_eq_getElem]

theorem Field.holds_iff
    {field : Field}
    {frame : Bytes}
    (inside : field.stop ≤ frame.length) :
    field.Holds frame ↔ ∀ byte ∈ field.slice frame, field.encoding.Admits byte := by
  rw [slice_eq inside, List.forall_mem_map]
  simp only [Holds, List.mem_range'_1, width]
  refine forall_congr' fun place => ?_
  constructor
  · rintro holds ⟨low, high⟩
    exact holds low (by omega)
  · intro holds low high
    exact holds ⟨low, by omega⟩

/-- What reading a field comes to when its parser accepts what the encoding admits. -/
theorem Field.read_eq
    {α : Type}
    {field : Field}
    {frame : Bytes}
    {parse? : Bytes → Option α}
    {value : α}
    (parsed : parse? (field.slice frame) = if field.Holds frame then some value else none) :
    field.read parse? frame =
      if field.Holds frame then .ok value
      else .error (.badField field (Text.lossy (field.slice frame))) := by
  unfold read
  by_cases holds : field.Holds frame
  · rw [parsed, if_pos holds, if_pos holds]
  · rw [parsed, if_neg holds, if_neg holds]

theorem Field.read_hexByte
    {field : Field}
    {frame : Bytes}
    (inside : field.stop ≤ frame.length)
    (wide : field.width = 2)
    (hex : field.encoding = .hex) :
    field.read hexByte? frame =
      if field.Holds frame then .ok (UInt8.ofNat (hexNumber frame field.start))
      else .error (.badField field (Text.lossy (field.slice frame))) := by
  apply read_eq
  have bytes : field.slice frame = [byteAt frame field.start, byteAt frame (field.start + 1)] := by
    rw [slice_eq inside, wide]
    rfl
  have holds : field.Holds frame ↔
      IsHexDigit (byteAt frame field.start) ∧ IsHexDigit (byteAt frame (field.start + 1)) := by
    rw [holds_iff inside, bytes, hex]
    simp [Encoding.Admits]
  rw [bytes]
  by_cases first : IsHexDigit (byteAt frame field.start)
  · by_cases second : IsHexDigit (byteAt frame (field.start + 1))
    · simp [hexByte?, hexDigit?_eq, holds, first, second, hexNumber]
    · simp [hexByte?, hexDigit?_eq, holds, first, second]
  · simp [hexByte?, hexDigit?_eq, holds, first]

theorem read_relay
    {frame : Bytes}
    (long : frameLength ≤ frame.length) :
    relay.read decimalDigit? frame =
      if relay.Holds frame then .ok (byteAt frame 19 - 0x30)
      else .error (.badField relay (Text.lossy (relay.slice frame))) := by
  apply Field.read_eq
  have inside : relay.stop ≤ frame.length := Nat.le_trans (by decide) long
  have bytes : relay.slice frame = [byteAt frame 19] := Field.slice_eq inside
  have holds : relay.Holds frame ↔ IsDecimalDigit (byteAt frame 19) := by
    rw [Field.holds_iff inside, bytes]
    simp [relay, Encoding.Admits]
  rw [bytes, decimalDigit?_eq]
  simp only [holds]

theorem read_opticalRelay
    {frame : Bytes}
    (long : frameLength ≤ frame.length) :
    opticalRelay.read opticalRelays? frame =
      if opticalRelay.Holds frame then .ok (.ofDigit (hexValue (byteAt frame 15)))
      else .error (.badField opticalRelay (Text.lossy (opticalRelay.slice frame))) := by
  apply Field.read_eq
  have inside : opticalRelay.stop ≤ frame.length := Nat.le_trans (by decide) long
  have bytes : opticalRelay.slice frame = [byteAt frame 15] := Field.slice_eq inside
  have holds : opticalRelay.Holds frame ↔ IsHexDigit (byteAt frame 15) := by
    rw [Field.holds_iff inside, bytes]
    simp [opticalRelay, Encoding.Admits]
  rw [bytes, opticalRelays?, hexDigit?_eq]
  by_cases digit : IsHexDigit (byteAt frame 15)
  · simp [holds, digit]
  · simp [holds, digit]

theorem contacts?_toList (contacts : Vector UInt8 contactCount) :
    contacts? contacts.toList =
      if contacts.toList.any isControl then none else some contacts := by
  obtain ⟨bytes, sized⟩ := contacts
  have same : bytes.toList.toArray.size = contactCount := sized
  simp only [contacts?, Vector.toList_mk, dif_pos same]

/-- The bytes of the dry contacts, one by one. -/
def contactsAt (frame : Bytes) : Vector UInt8 contactCount :=
  Vector.ofFn fun contact => byteAt frame (20 + contact)

theorem slice_dryContact
    {frame : Bytes}
    (long : frameLength ≤ frame.length) :
    dryContact.slice frame = (contactsAt frame).toList := by
  rw [Field.slice_eq (Nat.le_trans (by decide) long), contactsAt, Vector.toList_ofFn]
  apply List.ext_getElem
  · rw [List.length_map, List.length_range', List.length_ofFn]
    rfl
  · intro index inRange inList
    simp only [dryContact, List.getElem_map, List.getElem_range', List.getElem_ofFn, Nat.one_mul]

theorem read_dryContact
    {frame : Bytes}
    (long : frameLength ≤ frame.length) :
    dryContact.read contacts? frame =
      if dryContact.Holds frame then .ok (contactsAt frame)
      else .error (.badField dryContact (Text.lossy (dryContact.slice frame))) := by
  apply Field.read_eq
  have holds : dryContact.Holds frame ↔ (contactsAt frame).toList.any isControl = false := by
    rw [Field.holds_iff (Nat.le_trans (by decide) long), slice_dryContact long, List.any_eq_false]
    simp [dryContact, Encoding.Admits, isControl_eq]
  rw [slice_dryContact long, contacts?_toList]
  by_cases clean : (contactsAt frame).toList.any isControl = false
  · rw [if_neg (by simp [clean]), if_pos (holds.mpr clean)]
  · rw [if_pos (by simpa using clean), if_neg fun field => clean (holds.mp field)]

/-! ## Whole frames -/

/-- What the bytes of a frame stand for. -/
def described (frame : Bytes) : Status where
  hardwareVersion := UInt8.ofNat (hexNumber frame 6)
  softwareVersion := UInt8.ofNat (hexNumber frame 8)
  selfTemperature := UInt8.ofNat (hexNumber frame 40)
  relay := byteAt frame 19 - 0x30
  opticalRelays := .ofDigit (hexValue (byteAt frame 15))
  dryContacts := contactsAt frame

/-- What becomes of a frame when fields are inspected one after the other. -/
def judged (frame : Bytes) (fields : List Field) : Except Malformed Status :=
  match fields.find? fun field => ¬field.Holds frame with
  | none => .ok (described frame)
  | some field => .error (.badField field (Text.lossy (field.slice frame)))

@[simp] theorem judged_nil (frame : Bytes) : judged frame [] = .ok (described frame) := rfl

@[simp] theorem judged_cons
    (frame : Bytes)
    (field : Field)
    (later : List Field) :
    judged frame (field :: later) =
      if field.Holds frame then judged frame later
      else .error (.badField field (Text.lossy (field.slice frame))) := by
  unfold judged
  by_cases holds : field.Holds frame
  · rw [List.find?_cons_of_neg (by simp [holds]), if_pos holds]
  · rw [List.find?_cons_of_pos (by simp [holds]), if_neg holds]

theorem bind_ite
    {Result Final : Type}
    (condition : Prop)
    [Decidable condition]
    (result : Result)
    (reason : Malformed)
    (continuation : Result → Except Malformed Final) :
    (if condition then Except.ok result else .error reason) >>= continuation =
      if condition then continuation result else .error reason := by
  split <;> rfl

/-- Reading a frame that is long enough is inspecting its fields in order. -/
theorem decode_eq_judged
    {frame : Bytes}
    (long : frameLength ≤ frame.length) :
    decode frame = judged frame inspected := by
  have inside : ∀ field ∈ fields, field.stop ≤ frame.length := fun field present =>
    Nat.le_trans (stop_le_frameLength field present) long
  have hardware := Field.read_hexByte (inside hardwareVersion (by decide)) rfl rfl
  have software := Field.read_hexByte (inside softwareVersion (by decide)) rfl rfl
  have temperature := Field.read_hexByte (inside selfTemperature (by decide)) rfl rfl
  have order : inspected = [hardwareVersion, softwareVersion, selfTemperature, relay, opticalRelay,
    dryContact] := rfl
  rw [decode, if_neg (Nat.not_lt.mpr long), hardware, software, temperature, read_relay long,
    read_opticalRelay long, read_dryContact long, order]
  simp only [bind_ite, judged_cons, judged_nil]
  rfl

theorem decode_eq_ok_iff
    {frame : Bytes}
    (long : frameLength ≤ frame.length)
    (status : Status) :
    decode frame = .ok status ↔
      (∀ field ∈ inspected, field.Holds frame) ∧ status = described frame := by
  rw [decode_eq_judged long, judged]
  cases found : inspected.find? fun field => ¬field.Holds frame with
  | none =>
      simp only [List.find?_eq_none, decide_eq_true_eq, Classical.not_not] at found
      simp only [Except.ok.injEq, eq_comm (a := described frame)]
      exact ⟨fun equal => ⟨found, equal⟩, And.right⟩
  | some field =>
      have offends := List.find?_some found
      have present := List.mem_of_find?_eq_some found
      simp only [decide_eq_true_eq] at offends
      simp only [reduceCtorEq, false_iff, not_and]
      intro holds
      exact absurd (holds field present) offends

/-- A frame that is read is long enough. -/
theorem frameLength_le_of_decode
    {frame : Bytes}
    {status : Status}
    (read : decode frame = .ok status) :
    frameLength ≤ frame.length := by
  apply Nat.not_lt.mp
  intro short
  rw [decode, if_pos short] at read
  cases read

/-- The contacts of a status that was read from a frame hold no control character. -/
theorem not_isControlCharacter_of_decode
    {frame : Bytes}
    {status : Status}
    (read : decode frame = .ok status)
    {contact : UInt8}
    (present : contact ∈ status.dryContacts.toList) :
    ¬IsControlCharacter contact := by
  have long := frameLength_le_of_decode read
  obtain ⟨holds, rfl⟩ := (decode_eq_ok_iff long status).mp read
  rw [described, contactsAt, Vector.toList_ofFn, List.mem_ofFn] at present
  obtain ⟨place, rfl⟩ := present
  have within : (20 + place : Nat) < 40 := Nat.add_lt_add_left place.isLt 20
  exact holds ⟨"dry contact", 20, 40, .raw⟩ (by decide) (20 + place) (Nat.le_add_right 20 place)
    within

theorem decode_eq_error_iff
    {frame : Bytes}
    (long : frameLength ≤ frame.length)
    (reason : Malformed) :
    decode frame = .error reason ↔
      ∃ field, firstOffender? frame = some field ∧
        reason = .badField field (Text.lossy (field.slice frame)) := by
  rw [decode_eq_judged long, judged, firstOffender?]
  cases inspected.find? fun field => ¬field.Holds frame with
  | none => simp
  | some field => simp [eq_comm]

/-! ## What the bytes stand for -/

/-- The flags of the relays are the binary digits of their nibble. -/
theorem exists_bits_eq (relays : OpticalRelays) :
    ∃ first second third fourth : Bool,
      relays.bits = [first, second, third, fourth] ∧
        8 * first.toNat + 4 * second.toNat + 2 * third.toNat + fourth.toNat =
          relays.nibble.val := by
  obtain ⟨nibble⟩ := relays
  refine ⟨_, _, _, _, rfl, ?_⟩
  revert nibble
  decide

theorem toNat_hexNumber
    {frame : Bytes}
    {place : Nat}
    (first : IsHexDigit (byteAt frame place))
    (second : IsHexDigit (byteAt frame (place + 1))) :
    (UInt8.ofNat (hexNumber frame place)).toNat = hexNumber frame place := by
  have high := hexValue_lt first
  have low := hexValue_lt second
  rw [UInt8.toNat_ofNat', hexNumber]
  omega

theorem describes_described
    {frame : Bytes}
    (long : frameLength ≤ frame.length)
    (holds : ∀ field ∈ inspected, field.Holds frame) :
    Describes frame (described frame) := by
  have held (name : String) (start stop : Nat) (encoding : Encoding)
      (listed : ⟨name, start, stop, encoding⟩ ∈ inspected) (place : Nat)
      (within : start ≤ place ∧ place < stop) : encoding.Admits (byteAt frame place) :=
    holds _ listed place within.1 within.2
  have nibble : hexValue (byteAt frame 15) % 16 = hexValue (byteAt frame 15) :=
    Nat.mod_eq_of_lt (hexValue_lt (held "optical relay" 15 16 .nibble (by decide) 15 (by decide)))
  refine ⟨?_, ?_, ?_, ?_, nibble, ?_, ?_⟩
  · exact toNat_hexNumber (held "hardware version" 6 8 .hex (by decide) 6 (by decide))
      (held "hardware version" 6 8 .hex (by decide) 7 (by decide))
  · exact toNat_hexNumber (held "software version" 8 10 .hex (by decide) 8 (by decide))
      (held "software version" 8 10 .hex (by decide) 9 (by decide))
  · exact toNat_hexNumber (held "self temperature" 40 42 .hex (by decide) 40 (by decide))
      (held "self temperature" 40 42 .hex (by decide) 41 (by decide))
  · exact UInt8.toNat_sub_of_le _ _ (held "relay" 19 20 .decimal (by decide) 19 (by decide)).1
  · rw [← nibble]
    exact exists_bits_eq (described frame).opticalRelays
  · exact (slice_dryContact long).symm

/-- No two statuses say what the bytes of one frame stand for. -/
theorem Describes.unique
    {frame : Bytes}
    {status other : Status}
    (describes : Describes frame status)
    (otherDescribes : Describes frame other) :
    status = other := by
  obtain ⟨hardware, software, temperature, relay, ⟨nibble⟩, contacts⟩ := status
  obtain ⟨otherHardware, otherSoftware, otherTemperature, otherRelay, ⟨otherNibble⟩,
    otherContacts⟩ := other
  congr
  · exact UInt8.toNat_inj.mp
      (describes.hardwareVersion.trans otherDescribes.hardwareVersion.symm)
  · exact UInt8.toNat_inj.mp
      (describes.softwareVersion.trans otherDescribes.softwareVersion.symm)
  · exact UInt8.toNat_inj.mp
      (describes.selfTemperature.trans otherDescribes.selfTemperature.symm)
  · exact UInt8.toNat_inj.mp (describes.relay.trans otherDescribes.relay.symm)
  · exact Fin.ext (describes.opticalRelays.trans otherDescribes.opticalRelays.symm)
  · exact Vector.toList_inj.mp (describes.dryContacts.trans otherDescribes.dryContacts.symm)

/-! ## The grammar -/

/-- A position of a field. -/
def Covered (place : Nat) : Prop :=
  (6 ≤ place ∧ place < 10) ∨ place = 15 ∨ place = 19 ∨ (20 ≤ place ∧ place < 42)

/-- The covered positions are those of the fields. -/
theorem covered_iff (place : Nat) :
    Covered place ↔ ∃ field ∈ fields, field.start ≤ place ∧ place < field.stop := by
  simp only [fields, List.mem_cons, List.not_mem_nil, or_false, exists_eq_or_imp, exists_eq_left,
    hardwareVersion, softwareVersion, opticalRelay, relay, dryContact, selfTemperature, Covered]
  omega

theorem Field.slice_congr
    {field : Field}
    {frame other : Bytes}
    (agree : ∀ place, field.start ≤ place → place < field.stop →
      other[place]? = frame[place]?) :
    field.slice other = field.slice frame := by
  apply List.ext_getElem?
  intro index
  simp only [slice, width, List.getElem?_take, List.getElem?_drop]
  split
  · exact agree (field.start + index) (by omega) (by omega)
  · rfl

/-- Frames that agree on their fields are read alike. -/
theorem decode_congr
    {frame other : Bytes}
    (long : frameLength ≤ frame.length)
    (otherLong : frameLength ≤ other.length)
    (agree : ∀ place, Covered place → other[place]? = frame[place]?) :
    decode other = decode frame := by
  have same (field : Field) (listed : field ∈ fields) : field.slice other = field.slice frame :=
    Field.slice_congr fun place low high =>
      agree place ((covered_iff place).mpr ⟨field, listed, low, high⟩)
  simp only [decode, Field.read, if_neg (Nat.not_lt.mpr long), if_neg (Nat.not_lt.mpr otherLong),
    same hardwareVersion (by decide), same softwareVersion (by decide),
    same selfTemperature (by decide), same relay (by decide), same opticalRelay (by decide),
    same dryContact (by decide)]

/-- Reading accepts exactly the frames of the grammar and gives what their bytes stand for.  A frame
that is too short is reported as such, any other by its first offender, with the text of the bytes
there.  Nothing depends on the bytes between the fields and beyond them. -/
theorem decode_follows_grammar (frame : Bytes) :
    (frame.length < 42 → decode frame = .error (.tooShort frame.length)) ∧
      (42 ≤ frame.length →
        (∀ status, decode frame = .ok status ↔
          (∀ field ∈ inspected, field.Holds frame) ∧ Describes frame status) ∧
        (∀ reason, decode frame = .error reason ↔
          ∃ field, firstOffender? frame = some field ∧
            reason = .badField field
              (Text.lossy ((frame.drop field.start).take (field.stop - field.start)))) ∧
        ∀ other : Bytes, 42 ≤ other.length →
          (∀ place, Covered place → other[place]? = frame[place]?) →
          decode other = decode frame) := by
  refine ⟨fun short => if_pos short, fun long => ⟨?_, ?_, ?_⟩⟩
  · intro status
    rw [decode_eq_ok_iff long]
    refine and_congr_right fun holds => ?_
    have describes := describes_described long holds
    constructor
    · rintro rfl
      exact describes
    · intro described
      exact described.unique describes
  · exact decode_eq_error_iff long
  · intro other otherLong agree
    exact decode_congr long otherLong agree

/-- A sign in the temperature is reported before a letter that is no digit and a newline among the
contacts, which stand in front of it.  What follows the fields changes nothing. -/
theorem decode_follows_grammar_past_a_sign :
    let frame := Text.utf8 "TSC1001215.....G000701\n01'00000000000000+1"
    42 ≤ frame.length ∧
      decode (frame ++ Text.utf8 "\r\n") =
        .error (.badField ⟨"self temperature", 40, 42, .hex⟩ "+1") := by
  intro frame
  have long : 42 ≤ frame.length := by decide
  refine ⟨long, ?_⟩
  obtain ⟨_, refused, unchanged⟩ := (decode_follows_grammar frame).2 long
  rw [unchanged (frame ++ Text.utf8 "\r\n") (by decide) (fun place covered => ?_)]
  · refine (refused _).mpr ⟨⟨"self temperature", 40, 42, .hex⟩, ?_, ?_⟩
    · decide +kernel
    · decide +kernel
  · have within : place < frame.length := by
      unfold Covered at covered
      omega
    rw [List.getElem?_append_left within]

end Frame
end SerialShare
