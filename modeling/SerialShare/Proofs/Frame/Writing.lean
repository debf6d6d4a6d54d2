import SerialShare.Proofs.Frame.Grammar

/-!
# Written frames are read back

A field that is put over a frame holds what was put, and every position outside it keeps its byte.
So of several fields put one after the other, none of which reaches into another, each holds what
was put.

The main statement follows: reading undoes writing, except for what a frame cannot carry, which is
all but the last digit of the relay's state, and control characters among the contacts.
-/

namespace SerialShare
namespace Frame

/-! ## One field -/

/-- A field lies within a frame. -/
def Field.Within (field : Field) (frame : Bytes) : Prop :=
  field.start ≤ field.stop ∧ field.stop ≤ frame.length

/-- The bytes of a frame after a field has been put over it. -/
theorem Field.getElem?_put
    {field : Field}
    {bytes frame : Bytes}
    (within : field.Within frame)
    (full : bytes.length = field.width)
    (place : Nat) :
    (field.put bytes frame)[place]? =
      if field.start ≤ place ∧ place < field.stop then bytes[place - field.start]?
      else frame[place]? := by
  obtain ⟨ordered, inside⟩ := within
  have front : (frame.take field.start).length = field.start :=
    List.length_take_of_le (Nat.le_trans ordered inside)
  have taken : bytes.take field.width = bytes := List.take_of_length_le (Nat.le_of_eq full)
  have rest : field.start + min field.width bytes.length = field.stop := by
    unfold width at full ⊢
    omega
  unfold width at full
  rw [put, taken, rest, List.append_assoc]
  by_cases before : place < field.start
  · rw [if_neg (by omega), List.getElem?_append_left (by omega), List.getElem?_take_of_lt before]
  · rw [List.getElem?_append_right (by omega), front]
    by_cases during : place < field.stop
    · rw [if_pos (by omega), List.getElem?_append_left (by omega)]
    · rw [if_neg (by omega), List.getElem?_append_right (by omega), List.getElem?_drop]
      congr 1
      omega

/-- A field holds what was put there. -/
theorem Field.slice_put
    {field : Field}
    {bytes frame : Bytes}
    (within : field.Within frame)
    (full : bytes.length = field.width) :
    field.slice (field.put bytes frame) = bytes := by
  apply List.ext_getElem?
  intro index
  rw [slice, List.getElem?_take, List.getElem?_drop, getElem?_put within full]
  unfold width at full ⊢
  by_cases inside : index < field.stop - field.start
  · rw [if_pos inside, if_pos (by omega), Nat.add_sub_cancel_left]
  · rw [if_neg inside, List.getElem?_eq_none (by omega)]

/-! ## Several fields -/

/-- Entries fill the fields they are for, and these lie within a frame. -/
def Fit (frame : Bytes) (entries : List (Field × Bytes)) : Prop :=
  ∀ entry ∈ entries, entry.1.Within frame ∧ entry.2.length = entry.1.width

theorem Fit.tail
    {frame : Bytes}
    {entry : Field × Bytes}
    {later : List (Field × Bytes)}
    (fit : Fit frame (entry :: later)) :
    Fit (entry.1.put entry.2 frame) later := by
  have first := (fit entry List.mem_cons_self).1
  intro other present
  obtain ⟨within, full⟩ := fit other (List.mem_cons_of_mem entry present)
  refine ⟨⟨within.1, ?_⟩, full⟩
  rw [Field.length_put first.2]
  exact within.2

/-- A position outside every field that is written keeps its byte. -/
theorem getElem?_write_of_outside
    {frame : Bytes}
    {entries : List (Field × Bytes)}
    (fit : Fit frame entries)
    {place : Nat}
    (outside : ∀ entry ∈ entries, place < entry.1.start ∨ entry.1.stop ≤ place) :
    (write frame entries)[place]? = frame[place]? := by
  induction entries generalizing frame with
  | nil => rfl
  | cons entry later inductionHypothesis =>
      obtain ⟨within, full⟩ := fit entry List.mem_cons_self
      have apart := outside entry List.mem_cons_self
      have others := inductionHypothesis fit.tail fun other present =>
        outside other (List.mem_cons_of_mem entry present)
      refine others.trans ?_
      rw [Field.getElem?_put within full, if_neg (by omega)]

/-- Of fields that follow one another, each holds what was written there. -/
theorem slice_write
    {frame : Bytes}
    {entries : List (Field × Bytes)}
    (fit : Fit frame entries)
    (apart : entries.Pairwise fun earlier later => earlier.1.stop ≤ later.1.start)
    {entry : Field × Bytes}
    (present : entry ∈ entries) :
    entry.1.slice (write frame entries) = entry.2 := by
  induction entries generalizing frame with
  | nil => cases present
  | cons first later inductionHypothesis =>
      obtain ⟨before, laterApart⟩ := List.pairwise_cons.mp apart
      obtain rfl | present := List.mem_cons.mp present
      · obtain ⟨within, full⟩ := fit entry List.mem_cons_self
        have kept : entry.1.slice (write (entry.1.put entry.2 frame) later) =
            entry.1.slice (entry.1.put entry.2 frame) := by
          refine Field.slice_congr fun place low high => ?_
          refine getElem?_write_of_outside fit.tail fun other listed => ?_
          have ordered := before other listed
          omega
        exact kept.trans (Field.slice_put within full)
      · exact inductionHypothesis fit.tail laterApart present

/-! ## Whole frames -/

/-- Every field lies within a frame that is long enough. -/
theorem within_of_mem_fields
    {field : Field}
    (listed : field ∈ fields)
    {frame : Bytes}
    (long : frameLength ≤ frame.length) :
    field.Within frame := by
  have ordered : ∀ field ∈ fields, field.start ≤ field.stop := by decide
  exact ⟨ordered field listed, Nat.le_trans (stop_le_frameLength field listed) long⟩

theorem fit_written (status : Status) : Fit blank (written status) := by
  have full : ∀ entry ∈ written status, entry.2.length = entry.1.width := by
    simp only [written, List.forall_mem_cons]
    exact ⟨rfl, rfl, rfl, rfl, Vector.length_toList, rfl, nofun⟩
  intro entry present
  exact ⟨within_of_mem_fields (fst_mem_fields present) (Nat.le_of_eq length_blank.symm),
    full entry present⟩

theorem apart_written (status : Status) :
    (written status).Pairwise fun earlier later => earlier.1.stop ≤ later.1.start := by
  have apart := fields_pairwise_disjoint
  rw [← map_fst_written status] at apart
  exact List.pairwise_map.mp apart

/-- Whatever follows a written frame, each of its fields holds what was written. -/
theorem slice_encode_append
    {status : Status}
    {entry : Field × Bytes}
    (present : entry ∈ written status)
    (tail : Bytes) :
    entry.1.slice (encode status ++ tail) = entry.2 := by
  have within := (fit_written status entry present).1
  refine Eq.trans ?_ (slice_write (fit_written status) (apart_written status) present)
  refine Field.slice_congr fun place low high => ?_
  have inside : place < (encode status).length := by
    have last := within.2
    rw [length_blank] at last
    rw [length_encode]
    omega
  exact List.getElem?_append_left inside

/-- A written frame starts with the header, which lies in front of every field. -/
theorem header_isPrefix_encode (status : Status) : header <+: encode status := by
  rw [List.prefix_iff_getElem?]
  intro place inside
  have first : ∀ entry ∈ written status, header.length ≤ entry.1.start := by
    have front : ∀ field ∈ fields, header.length ≤ field.start := by decide
    intro entry present
    exact front entry.1 (fst_mem_fields present)
  rw [encode, getElem?_write_of_outside (fit_written status) fun entry present =>
    Or.inl (Nat.lt_of_lt_of_le inside (first entry present)), blank,
    List.getElem?_append_left inside, List.getElem?_eq_getElem inside]

/-! ## Parsers undo printers -/

theorem hexByte?_hexByte (byte : UInt8) : hexByte? (hexByte byte) = some byte := by
  revert byte
  refine forall_byte ?_
  decide +kernel

theorem decimalDigit?_hexDigit (byte : UInt8) :
    decimalDigit? [hexDigit (byte.toNat % 10)] = some (byte % 10) := by
  revert byte
  refine forall_byte ?_
  decide +kernel

theorem opticalRelays?_hexDigit (relays : OpticalRelays) :
    opticalRelays? [hexDigit relays.nibble] = some relays := by
  obtain ⟨nibble⟩ := relays
  revert nibble
  decide +kernel

theorem decode_encode_append
    (status : Status)
    (tail : Bytes) :
    decode (encode status ++ tail) =
      if status.dryContacts.toList.any isControl then
        .error (.badField dryContact (Text.lossy status.dryContacts.toList))
      else .ok { status with relay := status.relay % 10 } := by
  have long : ¬(encode status ++ tail).length < frameLength := by
    rw [List.length_append, length_encode]
    omega
  have slices : ∀ entry ∈ written status,
      entry.1.slice (encode status ++ tail) = entry.2 :=
    fun entry present => slice_encode_append present tail
  simp only [written, List.forall_mem_cons] at slices
  obtain ⟨hardware, software, optical, relayed, contacts, temperature, _⟩ := slices
  simp only [decode, if_neg long, Field.read, hardware, software, optical, relayed, contacts,
    temperature, hexByte?_hexByte, decimalDigit?_hexDigit, opticalRelays?_hexDigit,
    contacts?_toList]
  by_cases control : status.dryContacts.toList.any isControl
  · simp only [if_pos control]
    rfl
  · simp only [if_neg control]
    rfl

theorem with_relay_eq_iff
    (status : Status)
    (state : UInt8) :
    { status with relay := state } = status ↔ state = status.relay := by
  obtain ⟨hardware, software, temperature, relay, optical, contacts⟩ := status
  simp

theorem mod_ten_eq_iff (state : UInt8) : state % 10 = state ↔ state ≤ 9 := by
  rw [← UInt8.toNat_inj, UInt8.le_iff_toNat_le, UInt8.toNat_mod]
  change state.toNat % 10 = state.toNat ↔ state.toNat ≤ 9
  omega

/-- Reading undoes writing, whatever follows the frame: of the relay's state the last digit comes
back, and everything else as it was, unless a control character among the contacts makes them
unreadable. -/
theorem decode_undoes_encode
    (status : Status)
    (tail : Bytes) :
    (encode status).length = 42 ∧
      Text.utf8 "TSC1" <+: encode status ∧
      (decode (encode status ++ tail) =
        if ∃ contact ∈ status.dryContacts.toList, IsControlCharacter contact then
          .error (.badField ⟨"dry contact", 20, 40, .raw⟩
            (Text.lossy status.dryContacts.toList))
        else .ok { status with relay := status.relay % 10 }) ∧
      (decode (encode status) = .ok status ↔
        status.relay ≤ 9 ∧
          ∀ contact ∈ status.dryContacts.toList, ¬IsControlCharacter contact) := by
  have read (tail : Bytes) := decode_encode_append status tail
  have control : status.dryContacts.toList.any isControl = true ↔
      ∃ contact ∈ status.dryContacts.toList, IsControlCharacter contact := by
    simp only [List.any_eq_true, isControl_eq, decide_eq_true_eq]
  simp only [control] at read
  refine ⟨length_encode status, header_isPrefix_encode status, read tail, ?_⟩
  have whole := read []
  rw [List.append_nil] at whole
  rw [whole]
  by_cases unreadable : ∃ contact ∈ status.dryContacts.toList, IsControlCharacter contact
  · rw [if_pos unreadable]
    obtain ⟨contact, present, isControl⟩ := unreadable
    constructor
    · rintro ⟨⟩
    · rintro ⟨_, readable⟩
      exact absurd isControl (readable contact present)
  · rw [if_neg unreadable, Except.ok.injEq, with_relay_eq_iff, mod_ten_eq_iff]
    constructor
    · intro digit
      exact ⟨digit, fun contact present isControl => unreadable ⟨contact, present, isControl⟩⟩
    · exact And.left

end Frame
end SerialShare
