/-!
# Numerals

Digits and the numbers they spell, in any base up to sixteen.  Upper and lower case letters are the
same digit.
-/

namespace SerialShare
namespace Text

/-- The value of a hexadecimal digit of either case. -/
def digitValue? (character : Char) : Option Nat :=
  if '0' ≤ character ∧ character ≤ '9' then some (character.toNat - '0'.toNat)
  else if 'a' ≤ character ∧ character ≤ 'f' then some (character.toNat - 'a'.toNat + 10)
  else if 'A' ≤ character ∧ character ≤ 'F' then some (character.toNat - 'A'.toNat + 10)
  else none

/-- The value of a character as a digit of the given base. -/
def digitIn? (base : Nat) (character : Char) : Option Nat :=
  (digitValue? character).filter (· < base)

/-- Read digits onto a number, most significant first. -/
def appendDigits? (base : Nat) : Nat → List Char → Option Nat
  | value, [] => some value
  | value, character :: rest =>
    match digitIn? base character with
    | some digit => appendDigits? base (base * value + digit) rest
    | none => none

/-- The number that a nonempty string of digits spells. -/
def number? (base : Nat) : List Char → Option Nat
  | [] => none
  | digits => appendDigits? base 0 digits

/-- A whole number in decimal, with an optional sign. -/
def signedNumber? : List Char → Option Int
  | '-' :: digits => (number? 10 digits).map fun value => -Int.ofNat value
  | '+' :: digits => (number? 10 digits).map Int.ofNat
  | digits => (number? 10 digits).map Int.ofNat

/-- The decimal digits of a number, without leading zeros. -/
def decimal (value : Nat) : List Char :=
  Nat.toDigits 10 value

/-- The lower-case hexadecimal digits of a number, without leading zeros. -/
def hexadecimal (value : Nat) : List Char :=
  Nat.toDigits 16 value

end Text
end SerialShare
