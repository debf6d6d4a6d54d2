import SerialShare.Text.Utf8

/-!
# Text survives as bytes

Reading the UTF-8 form of a text gives the text back, whatever bytes follow it.  Character by
character: the first byte opens a character of the right width, and each further byte is one that
the unfinished character admits.

The last section says where ASCII characters are found among the bytes of a text.
-/

namespace SerialShare
namespace Text

/-! ## Reading one byte -/

theorem readFrom_of_single
    {byte : UInt8}
    {character : Char}
    (single : lead byte = .single character)
    (rest : Bytes) :
    readFrom none (byte :: rest) = character :: readFrom none rest := by
  rw [readFrom_cons, advance, start, single]
  rfl

theorem readFrom_of_opens
    {byte : UInt8}
    {unfinished : Unfinished}
    (opens : lead byte = .opens unfinished)
    (rest : Bytes) :
    readFrom none (byte :: rest) = readFrom (some unfinished) rest := by
  rw [readFrom_cons, advance, start, opens]
  rfl

theorem readFrom_of_continues
    {byte : UInt8}
    {unfinished : Unfinished}
    (admitted : unfinished.admits byte)
    (more : 1 < unfinished.owed)
    (rest : Bytes) :
    readFrom (some unfinished) (byte :: rest) =
      readFrom (some ⟨unfinished.extended byte, unfinished.owed - 1, 0x80, 0xBF⟩) rest := by
  rw [readFrom_cons, advance, if_pos admitted, if_neg (Nat.not_le.mpr more)]
  rfl

theorem readFrom_of_ends
    {byte : UInt8}
    {unfinished : Unfinished}
    (admitted : unfinished.admits byte)
    (last : unfinished.owed ≤ 1)
    (rest : Bytes) :
    readFrom (some unfinished) (byte :: rest) =
      Char.ofNat (unfinished.extended byte) :: readFrom none rest := by
  rw [readFrom_cons, advance, if_pos admitted, if_pos last]
  rfl

/-! ## Bytes as numbers -/

/-- The bounds that the first byte of a character is compared with, as numbers. -/
theorem lead_eq (byte : UInt8) :
    lead byte =
      if byte.toNat < 0x80 then .single (Char.ofUInt8 byte)
      else if byte.toNat < 0xC2 then .stray
      else if byte.toNat < 0xE0 then .opens ⟨byte.toNat % 32, 1, 0x80, 0xBF⟩
      else if byte.toNat = 0xE0 then .opens ⟨0, 2, 0xA0, 0xBF⟩
      else if byte.toNat = 0xED then .opens ⟨0xD, 2, 0x80, 0x9F⟩
      else if byte.toNat < 0xF0 then .opens ⟨byte.toNat % 16, 2, 0x80, 0xBF⟩
      else if byte.toNat = 0xF0 then .opens ⟨0, 3, 0x90, 0xBF⟩
      else if byte.toNat < 0xF4 then .opens ⟨byte.toNat % 8, 3, 0x80, 0xBF⟩
      else if byte.toNat = 0xF4 then .opens ⟨4, 3, 0x80, 0x8F⟩
      else .stray := by
  simp only [lead, UInt8.lt_iff_toNat_lt, ← UInt8.toNat_inj]
  rfl

theorem admits_iff
    (unfinished : Unfinished)
    (byte : UInt8) :
    unfinished.admits byte ↔
      unfinished.low.toNat ≤ byte.toNat ∧ byte.toNat ≤ unfinished.high.toNat := by
  simp only [Unfinished.admits, Bool.and_eq_true, decide_eq_true_eq, UInt8.le_iff_toNat_le]

theorem toNat_ofUInt8 (byte : UInt8) : (Char.ofUInt8 byte).toNat = byte.toNat :=
  UInt8.toNat_toUInt32 byte

theorem toNat_ofNat_of_lt
    {value : Nat}
    (small : value < 256) :
    (UInt8.ofNat value).toNat = value := by
  rw [UInt8.toNat_ofNat']
  exact Nat.mod_eq_of_lt small

/-- A byte that continues a character with six bits. -/
def continuation (bits : Nat) : UInt8 := UInt8.ofNat (bits % 64 + 128)

theorem toNat_continuation (bits : Nat) : (continuation bits).toNat = bits % 64 + 128 :=
  toNat_ofNat_of_lt (by omega)

theorem extended_continuation
    (unfinished : Unfinished)
    (bits : Nat) :
    unfinished.extended (continuation bits) = unfinished.value * 64 + bits % 64 := by
  rw [Unfinished.extended, toNat_continuation]
  omega

theorem readFrom_continuation
    {value owed bits : Nat}
    {low high : UInt8}
    (within : low.toNat ≤ bits % 64 + 128 ∧ bits % 64 + 128 ≤ high.toNat)
    (rest : Bytes) :
    readFrom (some ⟨value, owed + 2, low, high⟩) (continuation bits :: rest) =
      readFrom (some ⟨value * 64 + bits % 64, owed + 1, 0x80, 0xBF⟩) rest := by
  rw [← toNat_continuation] at within
  have admitted : Unfinished.admits ⟨value, owed + 2, low, high⟩ (continuation bits) :=
    (admits_iff _ _).mpr within
  rw [readFrom_of_continues admitted (Nat.le_add_left 2 owed), extended_continuation]
  rfl

theorem readFrom_last_continuation
    {value bits : Nat}
    {low high : UInt8}
    (within : low.toNat ≤ bits % 64 + 128 ∧ bits % 64 + 128 ≤ high.toNat)
    (rest : Bytes) :
    readFrom (some ⟨value, 1, low, high⟩) (continuation bits :: rest) =
      Char.ofNat (value * 64 + bits % 64) :: readFrom none rest := by
  rw [← toNat_continuation] at within
  rw [readFrom_of_ends ((admits_iff _ _).mpr within) (Nat.le_refl 1), extended_continuation]

/-- Later bytes are within the bounds that hold after the second one. -/
theorem within_default (bits : Nat) :
    (0x80 : UInt8).toNat ≤ bits % 64 + 128 ∧ bits % 64 + 128 ≤ (0xBF : UInt8).toNat := by
  change 128 ≤ bits % 64 + 128 ∧ bits % 64 + 128 ≤ 191
  omega

/-! ## Reading one character -/

theorem readFrom_one
    {value : Nat}
    (high : value ≤ 0x7F)
    (rest : Bytes) :
    readFrom none (UInt8.ofNat value :: rest) = Char.ofNat value :: readFrom none rest := by
  have number : (UInt8.ofNat value).toNat = value := toNat_ofNat_of_lt (by omega)
  have single : lead (UInt8.ofNat value) = .single (Char.ofUInt8 (UInt8.ofNat value)) := by
    rw [lead_eq, number, if_pos (by omega)]
  have shown : Char.ofNat value = Char.ofUInt8 (UInt8.ofNat value) := by
    have back := Char.ofNat_toNat (Char.ofUInt8 (UInt8.ofNat value))
    rwa [toNat_ofUInt8, number] at back
  rw [readFrom_of_single single, shown]

theorem readFrom_two
    {value : Nat}
    (low : 0x7F < value)
    (high : value ≤ 0x7FF)
    (rest : Bytes) :
    readFrom none (UInt8.ofNat (value / 64 % 32 + 192) :: continuation value :: rest) =
      Char.ofNat value :: readFrom none rest := by
  have number : (UInt8.ofNat (value / 64 % 32 + 192)).toNat = value / 64 + 192 :=
    (toNat_ofNat_of_lt (by omega)).trans (by omega)
  have opens : lead (UInt8.ofNat (value / 64 % 32 + 192)) =
      .opens ⟨(value / 64 + 192) % 32, 1, 0x80, 0xBF⟩ := by
    rw [lead_eq, number, if_neg (by omega), if_neg (by omega), if_pos (by omega)]
  rw [readFrom_of_opens opens, readFrom_last_continuation (within_default value)]
  congr 2
  omega

theorem readFrom_three
    {value : Nat}
    (low : 0x7FF < value)
    (high : value ≤ 0xFFFF)
    (valid : value < 0xD800 ∨ 0xDFFF < value)
    (rest : Bytes) :
    readFrom none (UInt8.ofNat (value / 4096 % 16 + 224) :: continuation (value / 64) ::
        continuation value :: rest) =
      Char.ofNat value :: readFrom none rest := by
  have number : (UInt8.ofNat (value / 4096 % 16 + 224)).toNat = value / 4096 + 224 :=
    (toNat_ofNat_of_lt (by omega)).trans (by omega)
  -- The bounds on the second byte keep out what has a shorter form, and surrogates.
  have opens : ∃ least greatest : UInt8,
      lead (UInt8.ofNat (value / 4096 % 16 + 224)) =
        .opens ⟨value / 4096, 2, least, greatest⟩ ∧
      least.toNat ≤ value / 64 % 64 + 128 ∧ value / 64 % 64 + 128 ≤ greatest.toNat := by
    rw [lead_eq, number, if_neg (by omega), if_neg (by omega), if_neg (by omega)]
    by_cases first : value / 4096 = 0
    · refine ⟨0xA0, 0xBF, ?_, ?_⟩
      · rw [if_pos (by omega), first]
      · change 160 ≤ _ ∧ _ ≤ 191
        omega
    · rw [if_neg (by omega)]
      by_cases surrogates : value / 4096 = 13
      · refine ⟨0x80, 0x9F, ?_, ?_⟩
        · rw [if_pos (by omega), surrogates]
        · change 128 ≤ _ ∧ _ ≤ 159
          omega
      · refine ⟨0x80, 0xBF, ?_, within_default (value / 64)⟩
        have bits : (value / 4096 + 224) % 16 = value / 4096 := by omega
        rw [if_neg (by omega), if_pos (by omega), bits]
  obtain ⟨least, greatest, opens, within⟩ := opens
  rw [readFrom_of_opens opens, readFrom_continuation within,
    readFrom_last_continuation (within_default value)]
  congr 2
  omega

theorem readFrom_four
    {value : Nat}
    (low : 0xFFFF < value)
    (high : value < 0x110000)
    (rest : Bytes) :
    readFrom none (UInt8.ofNat (value / 262144 % 8 + 240) :: continuation (value / 4096) ::
        continuation (value / 64) :: continuation value :: rest) =
      Char.ofNat value :: readFrom none rest := by
  have number : (UInt8.ofNat (value / 262144 % 8 + 240)).toNat = value / 262144 + 240 :=
    (toNat_ofNat_of_lt (by omega)).trans (by omega)
  have opens : ∃ least greatest : UInt8,
      lead (UInt8.ofNat (value / 262144 % 8 + 240)) =
        .opens ⟨value / 262144, 3, least, greatest⟩ ∧
      least.toNat ≤ value / 4096 % 64 + 128 ∧ value / 4096 % 64 + 128 ≤ greatest.toNat := by
    rw [lead_eq, number, if_neg (by omega), if_neg (by omega), if_neg (by omega),
      if_neg (by omega), if_neg (by omega), if_neg (by omega)]
    by_cases first : value / 262144 = 0
    · refine ⟨0x90, 0xBF, ?_, ?_⟩
      · rw [if_pos (by omega), first]
      · change 144 ≤ _ ∧ _ ≤ 191
        omega
    · rw [if_neg (by omega)]
      by_cases greatest : value / 262144 = 4
      · refine ⟨0x80, 0x8F, ?_, ?_⟩
        · rw [if_neg (by omega), if_pos (by omega), greatest]
        · change 128 ≤ _ ∧ _ ≤ 143
          omega
      · refine ⟨0x80, 0xBF, ?_, within_default (value / 4096)⟩
        have bits : (value / 262144 + 240) % 8 = value / 262144 := by omega
        rw [if_pos (by omega), bits]
  obtain ⟨least, greatest, opens, within⟩ := opens
  rw [readFrom_of_opens opens, readFrom_continuation within,
    readFrom_continuation (within_default (value / 64)),
    readFrom_last_continuation (within_default value)]
  congr 2
  omega

/-- The bytes of a character are read as that character. -/
theorem readFrom_utf8EncodeChar_append
    (character : Char)
    (rest : Bytes) :
    readFrom none (String.utf8EncodeChar character ++ rest) =
      character :: readFrom none rest := by
  have valid : character.toNat < 0xD800 ∨ 0xDFFF < character.toNat ∧ character.toNat < 0x110000 :=
    character.valid
  have same : Char.ofNat character.val.toNat :: readFrom none rest =
      character :: readFrom none rest :=
    congrArg (· :: readFrom none rest) (Char.ofNat_toNat character)
  simp only [String.utf8EncodeChar]
  split
  · rename_i high
    exact (readFrom_one high rest).trans same
  · rename_i low
    split
    · rename_i high
      exact (readFrom_two (Nat.not_le.mp low) high rest).trans same
    · rename_i low
      split
      · rename_i high
        exact (readFrom_three (Nat.not_le.mp low) high (valid.imp_right And.left) rest).trans same
      · rename_i low
        refine (readFrom_four (Nat.not_le.mp low) ?_ rest).trans same
        change character.toNat < 0x110000
        omega

/-- The bytes of characters are read as these characters. -/
theorem readFrom_flatMap_utf8EncodeChar (characters : List Char) :
    readFrom none (characters.flatMap String.utf8EncodeChar) = characters := by
  induction characters with
  | nil => rfl
  | cons character later inductionHypothesis =>
      rw [List.flatMap_cons, readFrom_utf8EncodeChar_append, inductionHypothesis]

/-- Writing a text as bytes loses nothing. -/
@[simp] theorem lossy_utf8 (text : String) : lossy (utf8 text) = text := by
  rw [lossy, utf8, readFrom_flatMap_utf8EncodeChar, String.ofList_toList]

/-! ## ASCII among the bytes -/

theorem utf8EncodeChar_of_ascii
    {character : Char}
    (ascii : character.toNat ≤ 0x7F) :
    String.utf8EncodeChar character = [UInt8.ofNat character.toNat] :=
  if_pos ascii

/-- No byte of a character beyond ASCII is an ASCII character. -/
theorem lt_toNat_of_mem_utf8EncodeChar
    {character : Char}
    (beyond : 0x7F < character.toNat)
    {byte : UInt8}
    (present : byte ∈ String.utf8EncodeChar character) :
    0x7F < byte.toNat := by
  have small : ∀ value : Nat, value < 128 → 0x7F < (UInt8.ofNat (value + 128)).toNat := by
    intro value bounded
    rw [toNat_ofNat_of_lt (by omega)]
    omega
  have number : character.val.toNat = character.toNat := rfl
  simp only [String.utf8EncodeChar, number, if_neg (Nat.not_le.mpr beyond)] at present
  -- Every byte is a number under 128 with the highest bit on top of it.
  split at present
  · simp only [List.mem_cons, List.not_mem_nil, or_false] at present
    obtain rfl | rfl := present
    · exact small (character.toNat / 64 % 32 + 64) (by omega)
    · exact small (character.toNat % 64) (by omega)
  · split at present
    · simp only [List.mem_cons, List.not_mem_nil, or_false] at present
      obtain rfl | rfl | rfl := present
      · exact small (character.toNat / 4096 % 16 + 96) (by omega)
      · exact small (character.toNat / 64 % 64) (by omega)
      · exact small (character.toNat % 64) (by omega)
    · simp only [List.mem_cons, List.not_mem_nil, or_false] at present
      obtain rfl | rfl | rfl | rfl := present
      · exact small (character.toNat / 262144 % 8 + 112) (by omega)
      · exact small (character.toNat / 4096 % 64) (by omega)
      · exact small (character.toNat / 64 % 64) (by omega)
      · exact small (character.toNat % 64) (by omega)

/-- An ASCII byte is found only where its character stands. -/
theorem toNat_eq_of_mem_utf8EncodeChar
    {character : Char}
    {byte : UInt8}
    (ascii : byte.toNat ≤ 0x7F)
    (present : byte ∈ String.utf8EncodeChar character) :
    character.toNat = byte.toNat := by
  by_cases low : character.toNat ≤ 0x7F
  · rw [utf8EncodeChar_of_ascii low, List.mem_singleton] at present
    rw [present, toNat_ofNat_of_lt (by omega)]
  · have beyond := lt_toNat_of_mem_utf8EncodeChar (Nat.not_le.mp low) present
    omega

theorem length_utf8EncodeChar_le_two
    {character : Char}
    (short : character.toNat ≤ 0x7FF) :
    (String.utf8EncodeChar character).length ≤ 2 := by
  have number : character.val.toNat = character.toNat := rfl
  simp only [String.utf8EncodeChar, number]
  split
  · exact Nat.le_succ 1
  · exact Nat.le_refl 2

end Text
end SerialShare
