import SerialShare.Proofs.Frame.NormalForm
import SerialShare.Proofs.Lines.RoundTrip
import SerialShare.Proofs.Query.Listing
import SerialShare.Proofs.Query.Reply

/-!
# The form of replies

Whatever is asked, and whatever frame was read last, the reply has one of a few forms, and it is a
line that the other side reads back as it was written.
-/

namespace SerialShare
namespace Query

/-! ## Forms -/

/-- A character between apostrophes.  An apostrophe stands between quotation marks instead, and a
backslash is doubled. -/
def quoted (character : Char) : String :=
  if character = '\x27' then "\"'\""
  else if character = '\\' then "'\\\\'"
  else "'" ++ String.singleton character ++ "'"

/-- Items in parentheses. -/
def listing (items : List String) : String :=
  "(" ++ ", ".intercalate items ++ ")"

/-- The form of a reply to each question, and to what is none.  Sequences are empty before anything
is known. -/
def Formed (text : String) : Option Question → Prop
  | some .hardwareVersion | some .softwareVersion | some .selfTemperature =>
    ∃ value ≤ 255, Text.Numeral text.toList value
  | some .relay => ∃ value ≤ 9, Text.Numeral text.toList value
  | some .opticalRelay =>
    text = "()" ∨ ∃ items : List String, items.length = 4 ∧
      (∀ item ∈ items, item = "'0'" ∨ item = "'1'") ∧ text = listing items
  | some .dryContact =>
    text = "()" ∨ ∃ contacts : List Char, contacts.length = 20 ∧
      (∀ contact ∈ contacts, Shown contact) ∧ text = listing (contacts.map quoted)
  | none =>
    text = "('get_hw', 'get_sw', 'get_self_temp', 'get_relay', 'get_optical_relay', " ++
      "'get_dry_contact')"

theorem toList_quoted (character : Char) : (quoted character).toList = quote [character] := by
  unfold quoted
  by_cases apostrophe : character = '\x27'
  · rw [if_pos apostrophe, apostrophe]
    rfl
  · rw [if_neg apostrophe]
    by_cases backslash : character = '\\'
    · rw [if_pos backslash, backslash]
      rfl
    · rw [if_neg backslash, quote_of_ne apostrophe backslash]
      simp

/-- Quoting character by character is what makes a listing. -/
theorem tuple_map_singleton (characters : List Char) :
    tuple (characters.map ([·])) = listing (characters.map quoted) := by
  have items : (characters.map ([·])).map quote = (characters.map quoted).map String.toList := by
    rw [List.map_map, List.map_map]
    exact List.map_congr_left fun character _ => (toList_quoted character).symm
  apply String.toList_injective
  rw [tuple, items, listing, String.toList_ofList, String.toList_append, String.toList_append,
    String.toList_intercalate]
  rfl

/-! ## Every reply has its form -/

theorem numeral_number (value : Option UInt8) :
    Text.Numeral (number value).toList (value.getD 0).toNat := by
  rw [number, String.toList_ofList]
  exact Text.numeral_decimal _

theorem formed_number (value : Option UInt8) :
    ∃ shown ≤ 255, Text.Numeral (number value).toList shown :=
  ⟨(value.getD 0).toNat, Nat.le_of_lt_succ (value.getD 0).toNat_lt, numeral_number value⟩

/-- The relay's state that was read, or is not known yet, is one digit. -/
theorem relay_le_nine
    {snapshot : Snapshot}
    (decoded : Decoded snapshot) :
    ((snapshot.map Status.relay).getD 0).toNat ≤ 9 := by
  cases snapshot with
  | none => exact Nat.zero_le 9
  | some status =>
      obtain ⟨frame, read⟩ := decoded status rfl
      have digit := (Frame.mod_ten_eq_iff _).mp (Frame.relay_mod_ten_of_decode read)
      exact UInt8.le_iff_toNat_le.mp digit

theorem formed_symbols (relays : OpticalRelays) :
    ∃ items : List String, items.length = 4 ∧
      (∀ item ∈ items, item = "'0'" ∨ item = "'1'") ∧
      tuple (relays.symbols.map ([·])) = listing items := by
  refine ⟨relays.symbols.map quoted, ?_, ?_, tuple_map_singleton _⟩
  · rw [List.length_map]
    rfl
  · simp only [OpticalRelays.symbols, List.map_map, List.forall_mem_map]
    intro on _
    cases on with
    | true => exact Or.inr (by decide)
    | false => exact Or.inl (by decide)

theorem formed_contacts
    {frame : Bytes}
    {status : Status}
    (read : Frame.decode frame = .ok status) :
    ∃ contacts : List Char, contacts.length = 20 ∧
      (∀ contact ∈ contacts, Shown contact) ∧
      answer .dryContact (some status) = listing (contacts.map quoted) := by
  refine ⟨status.dryContacts.toList.map Char.ofUInt8, ?_, ?_, ?_⟩
  · rw [List.length_map, Vector.length_toList]
    rfl
  · intro character listed
    obtain ⟨contact, present, rfl⟩ := List.mem_map.mp listed
    exact shown_ofUInt8 (Frame.not_isControlCharacter_of_decode read present)
  · rw [← tuple_map_singleton]
    exact answer_dryContact_some status

theorem formed_answer
    (question : Question)
    {snapshot : Snapshot}
    (decoded : Decoded snapshot) :
    Formed (answer question snapshot) (some question) := by
  cases question with
  | hardwareVersion => exact formed_number _
  | softwareVersion => exact formed_number _
  | selfTemperature => exact formed_number _
  | relay => exact ⟨_, relay_le_nine decoded, numeral_number _⟩
  | opticalRelay =>
      cases snapshot with
      | none => exact Or.inl rfl
      | some status => exact Or.inr (formed_symbols status.opticalRelays)
  | dryContact =>
      cases snapshot with
      | none => exact Or.inl rfl
      | some status =>
          obtain ⟨frame, read⟩ := decoded status rfl
          exact Or.inr (formed_contacts read)

/-- The listing of every word, spelled out. -/
theorem help_eq :
    help = "('get_hw', 'get_sw', 'get_self_temp', 'get_relay', 'get_optical_relay', " ++
      "'get_dry_contact')" := by
  decide

theorem formed_reply
    (request : String)
    {snapshot : Snapshot}
    (decoded : Decoded snapshot) :
    Formed (reply request snapshot) (Question.parse? request) := by
  unfold reply
  cases Question.parse? request with
  | some question => exact formed_answer question decoded
  | none => exact help_eq

/-! ## One line -/

/-- Whatever is asked, a reply about what was read from a frame, or about nothing, shows no control
character, fits on a line, is written as exactly one line, and is read back as it was by the other
side.  It has the form that belongs to the question. -/
theorem reply_is_one_clean_line
    (request : String)
    {snapshot : Snapshot}
    (decoded : Decoded snapshot) :
    let text := reply request snapshot
    (∀ character ∈ text.toList, ¬(character.toNat < 0x20 ∨ character.toNat = 0x7F)) ∧
      (Text.utf8 text).length ≤ 1024 ∧
      (∀ before : Bytes,
        Lines.terminated (before ++ Lines.encode text) =
            Lines.terminated before ++ [Lines.remainder before ++ Text.utf8 text] ∧
          Lines.remainder (before ++ Lines.encode text) = []) ∧
      (∀ chunks : List Bytes, chunks.flatten = Lines.encode text →
        (Lines.Splitter.new Lines.defaultLimit).feed [] chunks = some (⟨[text], none⟩, []) ∧
          (Lines.Splitter.new Lines.defaultLimit).readChunks [] chunks = some ⟨[text], none⟩) ∧
      Formed text (Question.parse? request) := by
  intro text
  have presentable : Presentable text := presentable_reply request decoded
  have clean := presentable.clean
  refine ⟨?_, clean.short, clean.terminated_append_encode, ?_, formed_reply request decoded⟩
  · rintro character present (low | deleted)
    · exact Nat.not_lt.mpr (presentable.shown character present).1 low
    · exact (presentable.shown character present).2.1 deleted
  · intro chunks whole
    exact clean.feed_encode (by decide) whole

/-- Contacts that look like the listing around them, and contacts that take two bytes each. -/
theorem reply_is_one_clean_line_of_odd_contacts :
    let frame := Text.utf8 "TSC1000AFF00000D0007'\\, ()\"" ++ [0xFF, 0xA0] ++
      Text.utf8 "000000000003C"
    let text := "(\"'\", '\\\\', ',', ' ', '(', ')', '\"', 'ÿ', '\u00A0', '0', '0', '0', '0', '0', " ++
      "'0', '0', '0', '0', '0', '0')"
    ∃ status, Frame.decode frame = .ok status ∧ reply "get_dry_contact" (some status) = text ∧
      ∀ chunks : List Bytes, chunks.flatten = Lines.encode text →
        (Lines.Splitter.new Lines.defaultLimit).readChunks [] chunks = some ⟨[text], none⟩ := by
  intro frame text
  have read : Frame.decode frame = .ok (Frame.described frame) := by
    refine (Frame.decode_eq_ok_iff (by decide) _).mpr ⟨?_, rfl⟩
    decide +kernel
  have shown : reply "get_dry_contact" (some (Frame.described frame)) = text := by
    decide +kernel
  have decoded : Decoded (some (Frame.described frame)) := by
    intro status known
    exact ⟨frame, Option.some.inj known ▸ read⟩
  refine ⟨_, read, shown, fun chunks whole => ?_⟩
  have line := (reply_is_one_clean_line "get_dry_contact" decoded).2.2.2.1 chunks
  rw [shown] at line
  exact (line whole).2

end Query
end SerialShare
