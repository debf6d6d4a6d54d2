/-!
# Bytes and UTF-8 text

Devices and clients exchange byte strings, and everything shown to a person is text.  This module
fixes the two directions: `utf8` writes a text as bytes, and `lossy` reads arbitrary bytes as text,
putting one replacement character for every maximal part that no character can start with.

`lossy` is a machine with one octet of input per step, so that a byte string read in two parts is
read by continuing from the state after the first.
-/

namespace SerialShare

/-- A byte string, as it travels over a serial line or a connection. -/
abbrev Bytes := List UInt8

namespace Text

/-- The UTF-8 bytes of a text. -/
def utf8 (text : String) : Bytes :=
  text.toList.flatMap String.utf8EncodeChar

/-- What stands for bytes that are no part of a character. -/
def replacement : Char := '\uFFFD'

/-- A character of which some bytes have been read. -/
structure Unfinished where
  /-- The bits read so far. -/
  value : Nat
  /-- How many bytes are still owed, the next one included. -/
  owed : Nat
  /-- The least value of the next byte. -/
  low : UInt8
  /-- The greatest value of the next byte. -/
  high : UInt8
  deriving DecidableEq, Repr

/-- What the first byte of a character says about the rest of it. -/
inductive Lead where
  /-- The byte is a character of its own. -/
  | single (character : Char)
  /-- More bytes are to follow. -/
  | opens (unfinished : Unfinished)
  /-- No character starts with this byte. -/
  | stray
  deriving DecidableEq, Repr

/-- Classify the first byte of a character.  The bounds on the second byte exclude overlong forms,
surrogates and values above `10FFFF`. -/
def lead (byte : UInt8) : Lead :=
  if byte < 0x80 then .single (Char.ofUInt8 byte)
  else if byte < 0xC2 then .stray
  else if byte < 0xE0 then .opens ⟨byte.toNat % 32, 1, 0x80, 0xBF⟩
  else if byte = 0xE0 then .opens ⟨0, 2, 0xA0, 0xBF⟩
  else if byte = 0xED then .opens ⟨0xD, 2, 0x80, 0x9F⟩
  else if byte < 0xF0 then .opens ⟨byte.toNat % 16, 2, 0x80, 0xBF⟩
  else if byte = 0xF0 then .opens ⟨0, 3, 0x90, 0xBF⟩
  else if byte < 0xF4 then .opens ⟨byte.toNat % 8, 3, 0x80, 0xBF⟩
  else if byte = 0xF4 then .opens ⟨4, 3, 0x80, 0x8F⟩
  else .stray

/-- Read a byte where a character starts. -/
def start (byte : UInt8) : List Char × Option Unfinished :=
  match lead byte with
  | .single character => ([character], none)
  | .opens unfinished => ([], some unfinished)
  | .stray => ([replacement], none)

/-- Whether a byte can come next in an unfinished character. -/
def Unfinished.admits (unfinished : Unfinished) (byte : UInt8) : Bool :=
  unfinished.low ≤ byte && byte ≤ unfinished.high

/-- The bits read so far, with those of one more byte. -/
def Unfinished.extended (unfinished : Unfinished) (byte : UInt8) : Nat :=
  unfinished.value * 64 + byte.toNat % 64

/-- Read one byte: the characters it completes, and the character it leaves unfinished.  A byte
that cannot continue an unfinished character ends that one and starts the next. -/
def advance : Option Unfinished → UInt8 → List Char × Option Unfinished
  | none, byte => start byte
  | some unfinished, byte =>
    if unfinished.admits byte then
      if unfinished.owed ≤ 1 then ([Char.ofNat (unfinished.extended byte)], none)
      else ([], some ⟨unfinished.extended byte, unfinished.owed - 1, 0x80, 0xBF⟩)
    else (replacement :: (start byte).1, (start byte).2)

/-- Read bytes from a given state on. -/
def readFrom : Option Unfinished → Bytes → List Char
  | none, [] => []
  | some _, [] => [replacement]
  | state, byte :: rest => (advance state byte).1 ++ readFrom (advance state byte).2 rest

@[simp] theorem readFrom_none_nil : readFrom none [] = [] := rfl

@[simp] theorem readFrom_some_nil (unfinished : Unfinished) :
    readFrom (some unfinished) [] = [replacement] := rfl

theorem readFrom_cons
    (state : Option Unfinished)
    (byte : UInt8)
    (rest : Bytes) :
    readFrom state (byte :: rest) =
      (advance state byte).1 ++ readFrom (advance state byte).2 rest := by
  cases state <;> rfl

/-- The text of arbitrary bytes, with a replacement character for every maximal invalid part. -/
def lossy (bytes : Bytes) : String :=
  String.ofList (readFrom none bytes)

/-- The text whose UTF-8 form the bytes are, if there is one.  An invalid part would come back as
the bytes of the replacement character, so exactly the valid byte strings survive. -/
def decode? (bytes : Bytes) : Option String :=
  if utf8 (lossy bytes) = bytes then some (lossy bytes) else none

end Text
end SerialShare
