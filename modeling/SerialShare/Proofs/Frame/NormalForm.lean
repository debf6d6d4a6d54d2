import SerialShare.Proofs.Frame.Writing
import SerialShare.Proofs.Poller.Mock

/-!
# The normal form of a frame

Different frames may stand for the same status: the case of their hexadecimal digits, the bytes
between the fields and those after the last one do not matter.  The normal form of a frame has the
header, upper-case digits, and zeros between the fields.

Writing what was read gives this form.  So the frames that come back as they were are those in
normal form, and two frames stand for the same status when their normal forms are the same.
-/

namespace SerialShare
namespace Frame

/-! ## Bytes and positions -/

/-- A position of a hexadecimal digit. -/
def HexAt (place : Nat) : Prop :=
  (6 ≤ place ∧ place < 10) ∨ place = 15 ∨ (40 ≤ place ∧ place < 42)

instance (place : Nat) : Decidable (Covered place) :=
  inferInstanceAs (Decidable (_ ∨ _))

instance (place : Nat) : Decidable (HexAt place) :=
  inferInstanceAs (Decidable (_ ∨ _))

theorem HexAt.covered
    {place : Nat}
    (hexAt : HexAt place) :
    Covered place := by
  unfold HexAt at hexAt
  unfold Covered
  omega

theorem Covered.lt
    {place : Nat}
    (covered : Covered place) :
    place < 42 := by
  unfold Covered at covered
  omega

/-- A hexadecimal digit in upper case. -/
def upperCase (byte : UInt8) : UInt8 :=
  if 0x61 ≤ byte ∧ byte ≤ 0x66 then byte - 0x20 else byte

/-- A hexadecimal digit that is no lower-case letter. -/
def IsUpperHexDigit (byte : UInt8) : Prop :=
  IsDecimalDigit byte ∨ (0x41 ≤ byte ∧ byte ≤ 0x46)

instance (byte : UInt8) : Decidable (IsUpperHexDigit byte) :=
  inferInstanceAs (Decidable (_ ∨ _))

theorem hexDigit_hexValue
    {byte : UInt8}
    (digit : IsHexDigit byte) :
    hexDigit (hexValue byte) = upperCase byte := by
  have all : ∀ byte, IsHexDigit byte → hexDigit (hexValue byte) = upperCase byte := by
    refine forall_byte ?_
    decide +kernel
  exact all byte digit

theorem hexDigit_decimal
    {byte : UInt8}
    (digit : IsDecimalDigit byte) :
    hexDigit ((byte - 0x30).toNat % 10) = byte := by
  have all : ∀ byte, IsDecimalDigit byte → hexDigit ((byte - 0x30).toNat % 10) = byte := by
    refine forall_byte ?_
    decide +kernel
  exact all byte digit

theorem upperCase_eq_iff
    {byte : UInt8}
    (digit : IsHexDigit byte) :
    upperCase byte = byte ↔ IsUpperHexDigit byte := by
  have all : ∀ byte, IsHexDigit byte → (upperCase byte = byte ↔ IsUpperHexDigit byte) := by
    refine forall_byte ?_
    decide +kernel
  exact all byte digit

/-! ## Normal forms -/

/-- What stands at a position of a normal form, given what stands there in the frame. -/
def normalByte (place : Nat) (byte : UInt8) : UInt8 :=
  if place < 4 then byteAt (Text.utf8 "TSC1") place
  else if HexAt place then upperCase byte
  else if Covered place then byte
  else 0x30

theorem normalByte_of_hexAt
    {place : Nat}
    (hexAt : HexAt place)
    (byte : UInt8) :
    normalByte place byte = upperCase byte := by
  have behind : ¬place < 4 := by
    unfold HexAt at hexAt
    omega
  rw [normalByte, if_neg behind, if_pos hexAt]

/-- A covered position without a hexadecimal digit keeps its byte. -/
theorem normalByte_of_covered
    {place : Nat}
    (covered : Covered place)
    (plain : ¬HexAt place)
    (byte : UInt8) :
    normalByte place byte = byte := by
  have behind : ¬place < 4 := by
    unfold Covered at covered
    omega
  rw [normalByte, if_neg behind, if_neg plain, if_pos covered]

theorem normalByte_of_not_covered
    {place : Nat}
    (uncovered : ¬Covered place)
    (byte : UInt8) :
    normalByte place byte = if place < 4 then byteAt (Text.utf8 "TSC1") place else 0x30 := by
  rw [normalByte, if_neg fun hexAt : HexAt place => uncovered hexAt.covered, if_neg uncovered]

/-- A frame cut to 42 bytes, with the header in front, the hexadecimal digits in upper case, and
zeros at all other positions outside the fields. -/
def normalForm (frame : Bytes) : Bytes :=
  (frame.take 42).mapIdx normalByte

variable {frame other : Bytes} {status : Status}

theorem length_normalForm (long : 42 ≤ frame.length) : (normalForm frame).length = 42 := by
  rw [normalForm, List.length_mapIdx, List.length_take_of_le long]

theorem byteAt_normalForm
    (long : 42 ≤ frame.length)
    {place : Nat}
    (inside : place < 42) :
    byteAt (normalForm frame) place = normalByte place (byteAt frame place) := by
  rw [byteAt_eq_getElem (by rw [length_normalForm long]; exact inside),
    byteAt_eq_getElem (by omega)]
  simp only [normalForm, List.getElem_mapIdx, List.getElem_take]

/-- A field of a normal form holds what the normal form has at its positions. -/
theorem slice_normalForm
    (long : 42 ≤ frame.length)
    {field : Field}
    (listed : field ∈ fields) :
    field.slice (normalForm frame) =
      (List.range' field.start field.width).map fun place =>
        normalByte place (byteAt frame place) := by
  have inside : field.stop ≤ 42 := stop_le_frameLength field listed
  rw [Field.slice_eq (by rw [length_normalForm long]; exact inside)]
  apply List.map_congr_left
  intro place within
  rw [List.mem_range'_1, Field.width] at within
  exact byteAt_normalForm long (by omega)

/-! ## Writing what was read -/

theorem byteAt_eq_iff
    (long : 42 ≤ frame.length)
    (otherLong : 42 ≤ other.length)
    {place : Nat}
    (inside : place < 42) :
    byteAt frame place = byteAt other place ↔ frame[place]? = other[place]? := by
  rw [byteAt_eq_getElem (by omega), byteAt_eq_getElem (by omega),
    List.getElem?_eq_getElem (by omega), List.getElem?_eq_getElem (by omega), Option.some.injEq]

theorem getElem?_slice
    {field : Field}
    {place : Nat}
    (low : field.start ≤ place)
    (high : place < field.stop) :
    (field.slice frame)[place - field.start]? = frame[place]? := by
  have position : field.start + (place - field.start) = place := by omega
  rw [Field.slice, List.getElem?_take_of_lt (by unfold Field.width; omega), List.getElem?_drop,
    position]

theorem eq_of_byteAt_eq
    (size : frame.length = 42)
    (otherSize : other.length = 42)
    (same : ∀ place, place < 42 → byteAt frame place = byteAt other place) :
    frame = other := by
  apply List.ext_getElem?
  intro place
  by_cases inside : place < 42
  · exact (byteAt_eq_iff (by omega) (by omega) inside).mp (same place inside)
  · rw [List.getElem?_eq_none (by omega), List.getElem?_eq_none (by omega)]

/-- Frames of 42 bytes are equal when their fields hold the same and nothing else differs. -/
theorem eq_of_slice_eq
    (size : frame.length = 42)
    (otherSize : other.length = 42)
    (slices : ∀ field ∈ fields, field.slice frame = field.slice other)
    (outside : ∀ place, place < 42 → ¬Covered place → byteAt frame place = byteAt other place) :
    frame = other := by
  apply eq_of_byteAt_eq size otherSize
  intro place inside
  by_cases covered : Covered place
  · obtain ⟨field, listed, low, high⟩ := (covered_iff place).mp covered
    rw [byteAt_eq_iff (by omega) (by omega) inside, ← getElem?_slice low high, slices field listed,
      getElem?_slice low high]
  · exact outside place inside covered

/-- The digits of a frame that holds what its fields ask for. -/
theorem isHexDigit_of_hexAt
    (holds : ∀ field ∈ inspected, field.Holds frame)
    {place : Nat}
    (hexAt : HexAt place) :
    IsHexDigit (byteAt frame place) := by
  obtain ⟨low, high⟩ | rfl | ⟨low, high⟩ := hexAt
  · by_cases first : place < 8
    · exact holds hardwareVersion (by decide) place low first
    · exact holds softwareVersion (by decide) place (Nat.not_lt.mp first) high
  · exact holds opticalRelay (by decide) 15 (by decide) (by decide)
  · exact holds selfTemperature (by decide) place low high

/-- Two digits written for the number that two digits spell are these digits in upper case. -/
theorem hexByte_hexNumber
    {place : Nat}
    (first : IsHexDigit (byteAt frame place))
    (second : IsHexDigit (byteAt frame (place + 1))) :
    hexByte (UInt8.ofNat (hexNumber frame place)) =
      [upperCase (byteAt frame place), upperCase (byteAt frame (place + 1))] := by
  have low := hexValue_lt second
  have number : hexNumber frame place / 16 = hexValue (byteAt frame place) ∧
      hexNumber frame place % 16 = hexValue (byteAt frame (place + 1)) := by
    unfold hexNumber
    omega
  rw [hexByte, toNat_hexNumber first second, number.1, number.2, hexDigit_hexValue first,
    hexDigit_hexValue second]

/-- What is written into each field for what was read from a frame. -/
theorem written_described
    (long : 42 ≤ frame.length)
    (holds : ∀ field ∈ inspected, field.Holds frame) :
    ∀ entry ∈ written (described frame), entry.2 = entry.1.slice (normalForm frame) := by
  have pair (field : Field) (listed : field ∈ fields) (wide : field.width = 2)
      (first : HexAt field.start) (second : HexAt (field.start + 1)) :
      hexByte (UInt8.ofNat (hexNumber frame field.start)) = field.slice (normalForm frame) := by
    rw [slice_normalForm long listed, wide,
      hexByte_hexNumber (isHexDigit_of_hexAt holds first) (isHexDigit_of_hexAt holds second),
      ← normalByte_of_hexAt first, ← normalByte_of_hexAt second]
    rfl
  simp only [written, List.forall_mem_cons]
  refine ⟨?_, ?_, ?_, ?_, ?_, ?_, List.forall_mem_nil _⟩
  · exact pair hardwareVersion (by decide) rfl (by decide) (by decide)
  · exact pair softwareVersion (by decide) rfl (by decide) (by decide)
  · have digit : IsHexDigit (byteAt frame 15) := isHexDigit_of_hexAt holds (by decide)
    have nibble : (described frame).opticalRelays.nibble.val = hexValue (byteAt frame 15) :=
      Nat.mod_eq_of_lt (hexValue_lt digit)
    rw [slice_normalForm long (by decide), nibble, hexDigit_hexValue digit]
    rfl
  · have digit : IsDecimalDigit (byteAt frame 19) :=
      holds relay (by decide) 19 (by decide) (by decide)
    rw [slice_normalForm long (by decide)]
    exact congrArg (fun byte => [byte]) (hexDigit_decimal digit)
  · rw [slice_normalForm long (by decide)]
    refine (slice_dryContact long).symm.trans ?_
    rw [Field.slice_eq (Nat.le_trans (by decide) long)]
    apply List.map_congr_left
    intro place within
    have inside : 20 ≤ place ∧ place < 20 + 20 := List.mem_range'_1.mp within
    have plain : ¬HexAt place := by
      unfold HexAt
      omega
    exact (normalByte_of_covered (by unfold Covered; omega) plain _).symm
  · exact pair selfTemperature (by decide) rfl (by decide) (by decide)

theorem byteAt_blank
    {place : Nat}
    (inside : place < 42) :
    byteAt blank place = if place < 4 then byteAt (Text.utf8 "TSC1") place else 0x30 := by
  have all : ∀ place, place < 42 →
      byteAt blank place = if place < 4 then byteAt (Text.utf8 "TSC1") place else 0x30 := by
    decide
  exact all place inside

/-- Writing what was read from a frame gives its normal form. -/
theorem encode_of_decode (read : decode frame = .ok status) : encode status = normalForm frame := by
  have long : 42 ≤ frame.length := frameLength_le_of_decode read
  obtain ⟨holds, rfl⟩ := (decode_eq_ok_iff long status).mp read
  refine eq_of_slice_eq (length_encode _) (length_normalForm long) ?_ ?_
  · intro field listed
    rw [← map_fst_written (described frame)] at listed
    obtain ⟨entry, present, rfl⟩ := List.mem_map.mp listed
    have kept := slice_encode_append present []
    rw [List.append_nil] at kept
    rw [kept, written_described long holds entry present]
  · intro place inside uncovered
    have untouched : (encode (described frame))[place]? = blank[place]? := by
      refine getElem?_write_of_outside (fit_written (described frame)) fun entry present => ?_
      have apart : ¬(entry.1.start ≤ place ∧ place < entry.1.stop) := fun within =>
        uncovered ((covered_iff place).mpr ⟨entry.1, fst_mem_fields present, within⟩)
      omega
    rw [byteAt_normalForm long inside, normalByte_of_not_covered uncovered, ← byteAt_blank inside]
    exact (byteAt_eq_iff (Nat.le_of_eq (length_encode _).symm) (Nat.le_of_eq length_blank.symm)
      inside).mpr untouched

/-! ## Frames in normal form -/

/-- A frame in normal form: exactly as long as it has to be, with the header in front, upper-case
digits, and zeros at all other positions outside the fields. -/
structure Normal (frame : Bytes) : Prop where
  /-- It has 42 bytes. -/
  size : frame.length = 42
  /-- The header comes first. -/
  header : Text.utf8 "TSC1" <+: frame
  /-- Every other byte outside the fields is the digit zero. -/
  padding : ∀ place, 4 ≤ place → place < 42 → ¬Covered place → byteAt frame place = 0x30
  /-- No hexadecimal digit is a lower-case letter. -/
  digits : ∀ place, HexAt place → IsUpperHexDigit (byteAt frame place)

/-- Frames agree on all covered positions up to the case of hexadecimal digits. -/
def AgreeUpToCase (frame other : Bytes) : Prop :=
  ∀ place, Covered place →
    if HexAt place then upperCase (byteAt frame place) = upperCase (byteAt other place)
    else byteAt frame place = byteAt other place

theorem header_isPrefix_iff (long : 42 ≤ frame.length) :
    Text.utf8 "TSC1" <+: frame ↔
      ∀ place, place < 4 → byteAt (Text.utf8 "TSC1") place = byteAt frame place := by
  rw [List.prefix_iff_getElem?]
  refine forall₂_congr fun place inside => ?_
  have front : place < 4 := inside
  rw [List.getElem?_eq_getElem (by omega), Option.some.injEq, byteAt_eq_getElem inside,
    byteAt_eq_getElem (by omega), eq_comm]

/-- The frames that are their own normal form. -/
theorem normalForm_eq_self_iff
    (long : 42 ≤ frame.length)
    (holds : ∀ field ∈ inspected, field.Holds frame) :
    normalForm frame = frame ↔ Normal frame := by
  constructor
  · intro same
    have bytes (place : Nat) (inside : place < 42) :
        normalByte place (byteAt frame place) = byteAt frame place := by
      rw [← byteAt_normalForm long inside, same]
    refine ⟨?_, ?_, ?_, ?_⟩
    · rw [← same]
      exact length_normalForm long
    · rw [header_isPrefix_iff long]
      intro place front
      rw [← bytes place (by omega), normalByte, if_pos front]
    · intro place behind inside uncovered
      rw [← bytes place inside, normalByte_of_not_covered uncovered, if_neg (Nat.not_lt.mpr behind)]
    · intro place hexAt
      rw [← upperCase_eq_iff (isHexDigit_of_hexAt holds hexAt), ← normalByte_of_hexAt hexAt]
      exact bytes place hexAt.covered.lt
  · intro normal
    apply eq_of_byteAt_eq (length_normalForm long) normal.size
    intro place inside
    rw [byteAt_normalForm long inside]
    by_cases hexAt : HexAt place
    · rw [normalByte_of_hexAt hexAt, upperCase_eq_iff (isHexDigit_of_hexAt holds hexAt)]
      exact normal.digits place hexAt
    · by_cases covered : Covered place
      · exact normalByte_of_covered covered hexAt _
      · rw [normalByte_of_not_covered covered]
        split
        · rename_i front
          exact (header_isPrefix_iff long).mp normal.header place front
        · rename_i behind
          exact (normal.padding place (Nat.not_lt.mp behind) inside covered).symm

/-- Frames with the same normal form are those that agree up to the case of digits. -/
theorem normalForm_eq_iff
    (long : 42 ≤ frame.length)
    (otherLong : 42 ≤ other.length) :
    normalForm frame = normalForm other ↔ AgreeUpToCase frame other := by
  constructor
  · intro same place covered
    have bytes : normalByte place (byteAt frame place) = normalByte place (byteAt other place) := by
      rw [← byteAt_normalForm long covered.lt, same, byteAt_normalForm otherLong covered.lt]
    by_cases hexAt : HexAt place
    · rw [if_pos hexAt, ← normalByte_of_hexAt hexAt, bytes, normalByte_of_hexAt hexAt]
    · rw [normalByte_of_covered covered hexAt, normalByte_of_covered covered hexAt] at bytes
      rw [if_neg hexAt, bytes]
  · intro agree
    apply eq_of_byteAt_eq (length_normalForm long) (length_normalForm otherLong)
    intro place inside
    rw [byteAt_normalForm long inside, byteAt_normalForm otherLong inside]
    by_cases covered : Covered place
    · have same := agree place covered
      by_cases hexAt : HexAt place
      · rw [if_pos hexAt] at same
        rw [normalByte_of_hexAt hexAt, normalByte_of_hexAt hexAt, same]
      · rw [if_neg hexAt] at same
        rw [same]
    · rw [normalByte_of_not_covered covered, normalByte_of_not_covered covered]

/-! ## What was read is read again -/

/-- The relay's state that was read is one digit. -/
theorem relay_mod_ten_of_decode (read : decode frame = .ok status) :
    status.relay % 10 = status.relay := by
  obtain ⟨holds, rfl⟩ := (decode_eq_ok_iff (frameLength_le_of_decode read) status).mp read
  have all : ∀ byte, IsDecimalDigit byte → (byte - 0x30) % 10 = byte - 0x30 := by
    refine forall_byte ?_
    decide +kernel
  exact all _ (holds relay (by decide) 19 (by decide) (by decide))

/-- What was read from a frame is read from what is written for it, whatever follows. -/
theorem decode_encode_append_of_decode
    (read : decode frame = .ok status)
    (tail : Bytes) :
    decode (encode status ++ tail) = .ok status := by
  have clean : ¬status.dryContacts.toList.any isControl := by
    simp only [List.any_eq_true, isControl_eq, decide_eq_true_eq]
    rintro ⟨contact, present, control⟩
    exact not_isControlCharacter_of_decode read present control
  rw [decode_encode_append, if_neg clean, relay_mod_ten_of_decode read]

/-- Frames are read as the same status when their normal forms are the same. -/
theorem status_eq_iff
    {otherStatus : Status}
    (read : decode frame = .ok status)
    (otherRead : decode other = .ok otherStatus) :
    status = otherStatus ↔ normalForm frame = normalForm other := by
  rw [← encode_of_decode read, ← encode_of_decode otherRead]
  constructor
  · rintro rfl
    rfl
  · intro same
    have again := decode_encode_append_of_decode read []
    rw [same, decode_encode_append_of_decode otherRead []] at again
    exact (Except.ok.inj again).symm

/-- What a device in memory answers while it reports a status that was read is read as this
status. -/
theorem decode_answer_of_decode (read : decode frame = .ok status) :
    decode (Device.Mock.answer status Device.Command.statusRequest.wire) = .ok status := by
  rw [Device.Mock.answer, Device.Command.ofWire?_wire]
  exact decode_encode_append_of_decode read Device.terminator

/-- Writing what was read from a frame gives the normal form of the frame, and reading that gives
the same status again, also when a device in memory reports it and is polled.  So exactly the frames
in normal form come back as they were, and two frames are read as the same status exactly if they
agree on all fields up to the case of hexadecimal digits. -/
theorem encode_normalizes (read : decode frame = .ok status) :
    decode (encode status) = .ok status ∧
      (∀ (name : String) (timing : Timing) (now : Nat) (board : Board),
        let polled := Poller.play (Device.Mock.link name) .exact ⟨.new status, now, board⟩
          (Poller.rotation timing)
        polled.ending = .finished .published ∧
          polled.station.board.latest = some status) ∧
      encode status = normalForm frame ∧
      (encode status = frame ↔ Normal frame) ∧
      ∀ other otherStatus, decode other = .ok otherStatus →
        (status = otherStatus ↔ AgreeUpToCase frame other) := by
  have long : 42 ≤ frame.length := frameLength_le_of_decode read
  have again := decode_encode_append_of_decode read []
  rw [List.append_nil] at again
  refine ⟨again, ?_, encode_of_decode read, ?_, ?_⟩
  · intro name timing now board
    have answered := decode_answer_of_decode read
    have present : Device.Mock.answer status Device.Command.statusRequest.wire ≠ [] := by
      intro nothing
      rw [nothing] at answered
      cases answered
    obtain ⟨later, operations, events, played⟩ :=
      Poller.play_rotation_mock name timing status now board
    simp only [played, Poller.verdict, Poller.Board.latest_shown, Poller.decoded?, if_neg present,
      answered, true_and]
    rfl
  · rw [encode_of_decode read]
    exact normalForm_eq_self_iff long ((decode_eq_ok_iff long status).mp read).1
  · intro other otherStatus otherRead
    rw [status_eq_iff read otherRead, normalForm_eq_iff long (frameLength_le_of_decode otherRead)]

/-- Lower-case digits, another header, dots between the fields, and a line end after them: none of
it comes back. -/
theorem encode_normalizes_lower_case :
    let frame := Text.utf8 "tsc9xx0aFf.....d...70000000000000000000~3c\r\n"
    let status : Status :=
      { hardwareVersion := 0x0A
        softwareVersion := 0xFF
        selfTemperature := 0x3C
        relay := 7
        opticalRelays := .ofBits true true false true
        dryContacts := Vector.ofFn fun place => if place.val = 19 then 0x7E else 0x30 }
    decode frame = .ok status ∧
      encode status = Text.utf8 "TSC1000AFF00000D00070000000000000000000~3C" := by
  intro frame status
  have read : decode frame = .ok status := by
    refine (decode_eq_ok_iff (by decide) status).mpr ⟨?_, ?_⟩
    · decide +kernel
    · decide +kernel
  refine ⟨read, (encode_normalizes read).2.2.1.trans ?_⟩
  decide +kernel

end Frame
end SerialShare
