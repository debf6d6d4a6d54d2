import SerialShare.Proofs.Frame.Grammar
import SerialShare.Proofs.Lines.Text
import SerialShare.Query.Reply

/-!
# Replies are lines

The contacts of a status that was read from a frame hold no control character, and nothing else in
a reply does.  So a reply is one line, whatever was asked and whatever the contacts are, and it is
well within the limit that a client sets.
-/

namespace SerialShare
namespace Query

/-- A character that a reply may show: no control character, and written with two bytes at most. -/
def Shown (character : Char) : Prop :=
  0x20 ≤ character.toNat ∧ character.toNat ≠ 0x7F ∧ character.toNat ≤ 0xFF

instance (character : Char) : Decidable (Shown character) :=
  inferInstanceAs (Decidable (_ ∧ _))

/-- A text that fits on a line, and shows nothing that would not. -/
structure Presentable (text : String) : Prop where
  /-- Every character may be shown. -/
  shown : ∀ character ∈ text.toList, Shown character
  /-- There are few of them. -/
  short : text.toList.length ≤ 512

/-- What is known of the device was read from frames. -/
def Decoded (snapshot : Snapshot) : Prop :=
  ∀ status, snapshot = some status → ∃ frame, Frame.decode frame = .ok status

theorem length_flatMap_utf8EncodeChar_le
    {characters : List Char}
    (shown : ∀ character ∈ characters, Shown character) :
    (characters.flatMap String.utf8EncodeChar).length ≤ 2 * characters.length := by
  induction characters with
  | nil => exact Nat.le_refl 0
  | cons character later inductionHypothesis =>
      rw [List.forall_mem_cons] at shown
      have low := shown.1.2.2
      have two : (String.utf8EncodeChar character).length ≤ 2 :=
        Text.length_utf8EncodeChar_le_two (by omega)
      have others := inductionHypothesis shown.2
      rw [List.flatMap_cons, List.length_append, List.length_cons]
      omega

/-- A presentable text comes back from a splitter as it was written. -/
theorem Presentable.clean
    {text : String}
    (presentable : Presentable text) :
    Lines.Clean Lines.defaultLimit text := by
  refine ⟨?_, ?_, ?_⟩
  · intro present
    exact absurd (presentable.shown '\n' present) (by decide)
  · intro last
    exact absurd (presentable.shown '\r' (List.mem_of_getLast? last)) (by decide)
  · have doubled := length_flatMap_utf8EncodeChar_le presentable.shown
    have short := presentable.short
    change (text.toList.flatMap String.utf8EncodeChar).length ≤ 1024
    omega

/-! ## Numbers -/

theorem presentable_number (value : Option UInt8) : Presentable (number value) := by
  refine ⟨?_, ?_⟩
  · intro character present
    rw [number, String.toList_ofList] at present
    have digit := Char.isDigit_iff_toNat.mp
      (Nat.isDigit_of_mem_toDigits (by decide) (by decide) present)
    have zero : '0'.toNat = 48 := rfl
    have nine : '9'.toNat = 57 := rfl
    unfold Shown
    omega
  · rw [number, String.toList_ofList]
    have small : (value.getD 0).toNat < 10 ^ 3 :=
      Nat.lt_trans (value.getD 0).toNat_lt (by decide)
    have digits := (Nat.length_toDigits_le_iff (by decide) (by decide)).mpr small
    exact Nat.le_trans digits (by decide)

/-! ## Sequences -/

theorem shown_of_mem_quote
    {item : List Char}
    (shown : ∀ character ∈ item, Shown character)
    {character : Char}
    (present : character ∈ quote item) :
    Shown character := by
  unfold quote at present
  split at present
  · simp only [List.mem_cons, List.not_mem_nil, or_false] at present
    obtain rfl | rfl | rfl := present
    · decide
    · decide
    · decide
  · simp only [List.mem_cons, List.not_mem_nil, or_false] at present
    obtain rfl | rfl | rfl | rfl := present
    · decide
    · decide
    · decide
    · decide
  · rw [List.mem_append, List.mem_cons, List.mem_singleton] at present
    obtain (rfl | inside) | rfl := present
    · decide
    · exact shown character inside
    · decide

theorem length_quote_le (item : List Char) : (quote item).length ≤ item.length + 3 := by
  unfold quote
  split
  · decide
  · decide
  · rw [List.length_append, List.length_cons, List.length_singleton]
    omega

theorem mem_or_mem_of_mem_intercalate
    {separator : List Char}
    {parts : List (List Char)}
    {character : Char}
    (present : character ∈ separator.intercalate parts) :
    character ∈ separator ∨ ∃ part ∈ parts, character ∈ part := by
  induction parts with
  | nil => cases present
  | cons part parts inductionHypothesis =>
      by_cases last : parts = []
      · rw [last, List.intercalate_singleton] at present
        exact Or.inr ⟨part, List.mem_cons_self, present⟩
      · rw [List.intercalate_cons_of_ne_nil last, List.mem_append, List.mem_append] at present
        obtain (inside | between) | after := present
        · exact Or.inr ⟨part, List.mem_cons_self, inside⟩
        · exact Or.inl between
        · obtain between | ⟨later, listed, inside⟩ := inductionHypothesis after
          · exact Or.inl between
          · exact Or.inr ⟨later, List.mem_cons_of_mem part listed, inside⟩

theorem length_intercalate_le
    (separator : List Char)
    {parts : List (List Char)}
    {most : Nat}
    (bounded : ∀ part ∈ parts, part.length ≤ most) :
    (separator.intercalate parts).length ≤ parts.length * (most + separator.length) := by
  induction parts with
  | nil => exact Nat.zero_le _
  | cons part parts inductionHypothesis =>
      rw [List.forall_mem_cons] at bounded
      rw [List.length_cons, Nat.succ_mul]
      by_cases last : parts = []
      · rw [last, List.intercalate_singleton]
        omega
      · have later := inductionHypothesis bounded.2
        rw [List.intercalate_cons_of_ne_nil last, List.length_append, List.length_append]
        omega

/-- A sequence of not too many and not too long items is presentable if its items are. -/
theorem presentable_tuple
    {items : List (List Char)}
    (few : items.length ≤ 20)
    (short : ∀ item ∈ items, item.length ≤ 20)
    (shown : ∀ item ∈ items, ∀ character ∈ item, Shown character) :
    Presentable (tuple items) := by
  refine ⟨?_, ?_⟩
  · intro character present
    rw [tuple, String.toList_ofList, List.mem_append, List.mem_cons, List.mem_singleton] at present
    obtain (rfl | inside) | rfl := present
    · decide
    · obtain between | ⟨part, listed, inside⟩ := mem_or_mem_of_mem_intercalate inside
      · rw [List.mem_cons, List.mem_singleton] at between
        obtain rfl | rfl := between
        · decide
        · decide
      · obtain ⟨item, itemListed, rfl⟩ := List.mem_map.mp listed
        exact shown_of_mem_quote (shown item itemListed) inside
    · decide
  · have bounded : ∀ part ∈ items.map quote, part.length ≤ 23 := by
      intro part listed
      obtain ⟨item, itemListed, rfl⟩ := List.mem_map.mp listed
      have quoted := length_quote_le item
      have unquoted := short item itemListed
      omega
    have total := length_intercalate_le [',', ' '] bounded
    rw [List.length_map, List.length_cons, List.length_singleton] at total
    rw [tuple, String.toList_ofList, List.length_append, List.length_cons, List.length_singleton]
    omega

/-- A sequence of single characters. -/
theorem presentable_tuple_singletons
    (characters : List Char)
    (few : characters.length ≤ 20)
    (shown : ∀ character ∈ characters, Shown character) :
    Presentable (tuple (characters.map ([·]))) := by
  apply presentable_tuple
  · rwa [List.length_map]
  · intro item listed
    obtain ⟨character, _, rfl⟩ := List.mem_map.mp listed
    exact (by decide : 1 ≤ 20)
  · intro item listed character inside
    obtain ⟨only, present, rfl⟩ := List.mem_map.mp listed
    rw [List.mem_singleton.mp inside]
    exact shown only present

/-! ## Replies -/

theorem presentable_help : Presentable help := by
  have all : (Question.all.flatMap fun question => question.token.toList).all
      (decide <| Shown ·) = true := by decide
  apply presentable_tuple
  · decide
  · decide
  · intro item listed character inside
    obtain ⟨question, present, rfl⟩ := List.mem_map.mp listed
    have shown := List.all_eq_true.mp all character
      (List.mem_flatMap.mpr ⟨question, present, inside⟩)
    exact of_decide_eq_true shown

theorem shown_of_mem_symbols
    (relays : OpticalRelays)
    {character : Char}
    (present : character ∈ relays.symbols) :
    Shown character := by
  obtain ⟨on, _, rfl⟩ := List.mem_map.mp present
  cases on with
  | true => decide
  | false => decide

/-- A byte that is no control character is shown. -/
theorem shown_ofUInt8
    {contact : UInt8}
    (readable : ¬Frame.IsControlCharacter contact) :
    Shown (Char.ofUInt8 contact) := by
  revert contact
  apply Frame.forall_byte
  decide +kernel

theorem presentable_answer
    (question : Question)
    {snapshot : Snapshot}
    (decoded : Decoded snapshot) :
    Presentable (answer question snapshot) := by
  cases question with
  | hardwareVersion => exact presentable_number _
  | softwareVersion => exact presentable_number _
  | selfTemperature => exact presentable_number _
  | relay => exact presentable_number _
  | opticalRelay =>
      cases snapshot with
      | none => exact presentable_tuple_singletons [] (Nat.zero_le 20) (List.forall_mem_nil Shown)
      | some status =>
          apply presentable_tuple_singletons
          · exact (by decide : 4 ≤ 20)
          · exact fun character => shown_of_mem_symbols status.opticalRelays
  | dryContact =>
      cases snapshot with
      | none => exact presentable_tuple_singletons [] (Nat.zero_le 20) (List.forall_mem_nil Shown)
      | some status =>
          obtain ⟨frame, read⟩ := decoded status rfl
          have several : (status.dryContacts.toList.map Char.ofUInt8).length ≤ 20 := by
            rw [List.length_map, Vector.length_toList]
            exact Nat.le_refl 20
          have shown : ∀ character ∈ status.dryContacts.toList.map Char.ofUInt8,
              Shown character := by
            intro character listed
            obtain ⟨contact, present, rfl⟩ := List.mem_map.mp listed
            exact shown_ofUInt8 (Frame.not_isControlCharacter_of_decode read present)
          have presentable := presentable_tuple_singletons _ several shown
          rw [List.map_map] at presentable
          exact presentable

/-- Whatever is asked, the reply is presentable. -/
theorem presentable_reply
    (request : String)
    {snapshot : Snapshot}
    (decoded : Decoded snapshot) :
    Presentable (reply request snapshot) := by
  unfold reply
  split
  · exact presentable_answer _ decoded
  · exact presentable_help

/-- Whatever is asked, the reply is a line that the client can read back. -/
theorem clean_reply
    (request : String)
    {snapshot : Snapshot}
    (decoded : Decoded snapshot) :
    Lines.Clean Lines.defaultLimit (reply request snapshot) :=
  (presentable_reply request decoded).clean

end Query
end SerialShare
