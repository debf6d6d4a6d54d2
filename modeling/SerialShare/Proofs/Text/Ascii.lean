import Mathlib.Algebra.Group.Nat.Defs
import Mathlib.Data.List.Basic
import SerialShare.Proofs.Text.Utf8

/-!
# ASCII text comes from ASCII bytes

Reading arbitrary bytes replaces what is no part of a character, and never drops it.  What an
unfinished character becomes is a character beyond ASCII, or a replacement.  So bytes that are read
as ASCII characters alone are these characters.

The invariant of an unfinished character is a range: the characters it can still become lie in it,
and the range holds neither ASCII characters nor surrogates.
-/

namespace SerialShare
namespace Text

/-! ## What an unfinished character can become -/

/-- The least value that an unfinished character can still become. -/
def Unfinished.least (unfinished : Unfinished) : Nat :=
  (unfinished.value * 64 + unfinished.low.toNat % 64) * 64 ^ (unfinished.owed - 1)

/-- A bound above every value that an unfinished character can still become. -/
def Unfinished.bound (unfinished : Unfinished) : Nat :=
  (unfinished.value * 64 + unfinished.high.toNat % 64 + 1) * 64 ^ (unfinished.owed - 1)

/-- Whatever an unfinished character still becomes is a character beyond ASCII. -/
structure Unfinished.Sound (unfinished : Unfinished) : Prop where
  /-- Only bytes that continue a character are admitted. -/
  continues : 0x80 ≤ unfinished.low.toNat ∧ unfinished.high.toNat ≤ 0xBF
  /-- It is no ASCII character. -/
  beyond : 0x7F < unfinished.least
  /-- It is none of the surrogates, and not above the greatest character. -/
  scalar : unfinished.bound ≤ 0xD800 ∨ 0xDFFF < unfinished.least ∧ unfinished.bound ≤ 0x110000

instance (unfinished : Unfinished) : Decidable unfinished.Sound :=
  decidable_of_iff
    ((0x80 ≤ unfinished.low.toNat ∧ unfinished.high.toNat ≤ 0xBF) ∧ 0x7F < unfinished.least ∧
      (unfinished.bound ≤ 0xD800 ∨
        0xDFFF < unfinished.least ∧ unfinished.bound ≤ 0x110000))
    ⟨fun ⟨continues, beyond, scalar⟩ => ⟨continues, beyond, scalar⟩,
      fun sound => ⟨sound.continues, sound.beyond, sound.scalar⟩⟩

/-- What a first byte says holds: it is the code of the character that it is on its own, and what it
opens is sound. -/
def Lead.Sound (byte : UInt8) : Lead → Prop
  | .single character => byte = UInt8.ofNat character.toNat
  | .opens unfinished => unfinished.Sound
  | .stray => True

instance (byte : UInt8) (lead : Lead) : Decidable (lead.Sound byte) :=
  match lead with
  | .single character => inferInstanceAs (Decidable (byte = UInt8.ofNat character.toNat))
  | .opens unfinished => inferInstanceAs (Decidable unfinished.Sound)
  | .stray => inferInstanceAs (Decidable True)

theorem sound_lead (byte : UInt8) : (lead byte).Sound byte := by
  have all : ∀ value : Fin 256, (lead (UInt8.ofFin value)).Sound (UInt8.ofFin value) := by
    decide +kernel
  exact all byte.toFin

variable {unfinished : Unfinished} {byte : UInt8}

/-- Where the next byte may be any that continues a character, the range is made of all that start
with the bits read so far. -/
theorem least_open
    (value owed : Nat) :
    Unfinished.least ⟨value, owed + 1, 0x80, 0xBF⟩ = value * 64 ^ (owed + 1) := by
  have low : (0x80 : UInt8).toNat % 64 = 0 := rfl
  simp only [Unfinished.least, low]
  rw [Nat.add_zero, Nat.pow_succ', Nat.mul_assoc, Nat.add_sub_cancel]

theorem bound_open
    (value owed : Nat) :
    Unfinished.bound ⟨value, owed + 1, 0x80, 0xBF⟩ = (value + 1) * 64 ^ (owed + 1) := by
  have high : (0xBF : UInt8).toNat % 64 = 63 := rfl
  simp only [Unfinished.bound, high]
  rw [Nat.add_assoc, ← Nat.succ_mul, Nat.pow_succ', Nat.mul_assoc, Nat.add_sub_cancel]

namespace Unfinished.Sound

/-- One more byte leaves a part of the range. -/
theorem extended
    (sound : unfinished.Sound)
    (admitted : unfinished.admits byte) :
    unfinished.least ≤ unfinished.extended byte * 64 ^ (unfinished.owed - 1) ∧
      (unfinished.extended byte + 1) * 64 ^ (unfinished.owed - 1) ≤ unfinished.bound := by
  obtain ⟨low, high⟩ := (admits_iff unfinished byte).mp admitted
  obtain ⟨least, greatest⟩ := sound.continues
  rw [Unfinished.least, Unfinished.bound, Unfinished.extended]
  refine ⟨Nat.mul_le_mul_right _ ?_, Nat.mul_le_mul_right _ ?_⟩
  · omega
  · omega

/-- What is unfinished after one more byte is sound again. -/
theorem next
    (sound : unfinished.Sound)
    (admitted : unfinished.admits byte)
    (more : 1 < unfinished.owed) :
    Unfinished.Sound ⟨unfinished.extended byte, unfinished.owed - 1, 0x80, 0xBF⟩ := by
  obtain ⟨low, high⟩ := sound.extended admitted
  have beyond := sound.beyond
  have scalar := sound.scalar
  obtain ⟨further, owed⟩ : ∃ further, unfinished.owed - 1 = further + 1 :=
    ⟨unfinished.owed - 2, by omega⟩
  rw [owed] at low high ⊢
  refine ⟨⟨Nat.le_refl _, Nat.le_refl _⟩, ?_, ?_⟩
  · rw [least_open]
    omega
  · rw [least_open, bound_open]
    omega

/-- A last byte makes a character beyond ASCII. -/
theorem finished
    (sound : unfinished.Sound)
    (admitted : unfinished.admits byte)
    (last : unfinished.owed ≤ 1) :
    0x7F < (Char.ofNat (unfinished.extended byte)).toNat := by
  obtain ⟨low, high⟩ := sound.extended admitted
  have beyond := sound.beyond
  have scalar := sound.scalar
  rw [Nat.sub_eq_zero_of_le last, Nat.pow_zero, Nat.mul_one] at low high
  have valid : (unfinished.extended byte).isValidChar := by
    unfold Nat.isValidChar
    omega
  rw [Char.ofNat, dif_pos valid]
  change 0x7F < unfinished.extended byte
  omega

end Unfinished.Sound

theorem beyond_replacement : 0x7F < replacement.toNat := by
  decide

/-- Whatever follows, an unfinished character shows as something beyond ASCII. -/
theorem exists_beyond_of_sound
    (sound : unfinished.Sound)
    (bytes : Bytes) :
    ∃ character ∈ readFrom (some unfinished) bytes, 0x7F < character.toNat := by
  induction bytes generalizing unfinished with
  | nil => exact ⟨replacement, List.mem_singleton_self _, beyond_replacement⟩
  | cons byte rest inductionHypothesis =>
      by_cases admitted : unfinished.admits byte
      · by_cases last : unfinished.owed ≤ 1
        · rw [readFrom_of_ends admitted last]
          exact ⟨_, List.mem_cons_self, sound.finished admitted last⟩
        · rw [readFrom_of_continues admitted (Nat.not_le.mp last)]
          exact inductionHypothesis (sound.next admitted (Nat.not_le.mp last))
      · rw [readFrom_cons, advance, if_neg admitted]
        exact ⟨replacement, List.mem_cons_self, beyond_replacement⟩

/-! ## ASCII text -/

/-- One byte for each character, its code. -/
def codes (characters : List Char) : Bytes :=
  characters.map fun character => UInt8.ofNat character.toNat

/-- ASCII characters are written as their codes. -/
theorem flatMap_utf8EncodeChar_of_ascii
    {characters : List Char}
    (ascii : ∀ character ∈ characters, character.toNat ≤ 0x7F) :
    characters.flatMap String.utf8EncodeChar = codes characters := by
  rw [codes, List.map_eq_flatMap]
  exact List.flatMap_congr fun character present => utf8EncodeChar_of_ascii (ascii character present)

/-- Bytes that are read as ASCII characters alone are the codes of these characters. -/
theorem eq_codes_of_readFrom_ascii
    {bytes : Bytes}
    (ascii : ∀ character ∈ readFrom none bytes, character.toNat ≤ 0x7F) :
    bytes = codes (readFrom none bytes) := by
  induction bytes with
  | nil => rfl
  | cons byte rest inductionHypothesis =>
      have sound := sound_lead byte
      cases first : lead byte with
      | single character =>
          rw [first] at sound
          rw [readFrom_of_single first] at ascii ⊢
          rw [List.forall_mem_cons] at ascii
          rw [codes, List.map_cons, ← show byte = UInt8.ofNat character.toNat from sound]
          exact congrArg (byte :: ·) (inductionHypothesis ascii.2)
      | opens unfinished =>
          rw [first] at sound
          rw [readFrom_of_opens first] at ascii
          obtain ⟨character, present, beyond⟩ := exists_beyond_of_sound sound rest
          exact absurd beyond (Nat.not_lt.mpr (ascii character present))
      | stray =>
          rw [readFrom_cons, advance, start, first] at ascii
          exact absurd beyond_replacement
            (Nat.not_lt.mpr (ascii replacement List.mem_cons_self))

/-- A text of ASCII characters alone is read only off the codes of its characters. -/
theorem lossy_eq_iff_of_ascii
    {text : String}
    (ascii : ∀ character ∈ text.toList, character.toNat ≤ 0x7F)
    (bytes : Bytes) :
    lossy bytes = text ↔ bytes = codes text.toList := by
  constructor
  · rintro rfl
    rw [lossy, String.toList_ofList] at ascii ⊢
    exact eq_codes_of_readFrom_ascii ascii
  · rintro rfl
    rw [← flatMap_utf8EncodeChar_of_ascii ascii]
    exact lossy_utf8 text

end Text
end SerialShare
