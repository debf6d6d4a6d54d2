import SerialShare.Text.Numeral

/-!
# Numerals

What is written for a number spells that number, in any base, and nothing is written in front of a
decimal that could be left out.  So different numbers are written differently.
-/

namespace SerialShare
namespace Text

/-- The shortest digits that spell a number. -/
structure Numeral (digits : List Char) (value : Nat) : Prop where
  /-- There are only decimal digits. -/
  decimal : ∀ digit ∈ digits, digit.isDigit
  /-- They are read as the number. -/
  value : number? 10 digits = some value
  /-- A zero is in front only when it is alone. -/
  leading : digits.head? = some '0' → digits = ['0']

theorem digitIn?_digitChar
    {base digit : Nat}
    (inBase : digit < base)
    (known : base ≤ 16) :
    digitIn? base digit.digitChar = some digit := by
  have value : ∀ digit < 16, digitValue? (Nat.digitChar digit) = some digit := by decide
  rw [digitIn?, value digit (by omega), Option.filter_some, if_pos (decide_eq_true inBase)]

theorem appendDigits?_append
    (base value : Nat)
    (front back : List Char) :
    appendDigits? base value (front ++ back) =
      (appendDigits? base value front).bind (appendDigits? base · back) := by
  induction front generalizing value with
  | nil => rfl
  | cons digit later inductionHypothesis =>
      rw [List.cons_append, appendDigits?, appendDigits?]
      cases digitIn? base digit with
      | none => rfl
      | some read => exact inductionHypothesis _

theorem appendDigits?_digitChar
    {base digit : Nat}
    (inBase : digit < base)
    (known : base ≤ 16)
    (value : Nat) :
    appendDigits? base value [digit.digitChar] = some (base * value + digit) := by
  rw [appendDigits?, digitIn?_digitChar inBase known]
  rfl

/-- A number is spelled by digits of its base alone. -/
theorem isSome_digitIn?_of_mem
    {base value read : Nat}
    {digits : List Char}
    (spelled : appendDigits? base value digits = some read)
    {character : Char}
    (present : character ∈ digits) :
    (digitIn? base character).isSome = true := by
  induction digits generalizing value with
  | nil => cases present
  | cons digit later inductionHypothesis =>
      rw [appendDigits?] at spelled
      cases known : digitIn? base digit with
      | none =>
          rw [known] at spelled
          cases spelled
      | some first =>
          rw [known] at spelled
          obtain rfl | present := List.mem_cons.mp present
          · rw [known]
            rfl
          · exact inductionHypothesis spelled present

theorem appendDigits?_of_number?
    {base value : Nat}
    {digits : List Char}
    (spelled : number? base digits = some value) :
    appendDigits? base 0 digits = some value := by
  cases digits with
  | nil => cases spelled
  | cons digit later => exact spelled

theorem number?_eq_none_of_mem
    {base : Nat}
    {digits : List Char}
    {character : Char}
    (present : character ∈ digits)
    (foreign : digitIn? base character = none) :
    number? base digits = none := by
  cases read : number? base digits with
  | none => rfl
  | some value =>
      have known := isSome_digitIn?_of_mem (appendDigits?_of_number? read) present
      rw [foreign] at known
      cases known

/-- The digits of a number in a base spell the number in that base. -/
theorem number?_toDigits
    {base : Nat}
    (proper : 1 < base)
    (known : base ≤ 16)
    (value : Nat) :
    number? base (Nat.toDigits base value) = some value := by
  have read : appendDigits? base 0 (Nat.toDigits base value) = some value := by
    induction value using Nat.base_induction base proper with
    | single value small =>
        rw [Nat.toDigits_of_lt_base small, appendDigits?_digitChar small known, Nat.mul_zero,
          Nat.zero_add]
    | digit front last small positive inductionHypothesis =>
        rw [← Nat.toDigits_append_toDigits proper positive small, appendDigits?_append,
          inductionHypothesis, Nat.toDigits_of_lt_base small]
        exact appendDigits?_digitChar small known front
  cases written : Nat.toDigits base value with
  | nil => exact absurd written Nat.toDigits_ne_nil
  | cons digit later => rwa [written] at read

theorem isDigit_of_mem_decimal
    {value : Nat}
    {character : Char}
    (present : character ∈ decimal value) :
    character.isDigit :=
  Nat.isDigit_of_mem_toDigits (by decide) (by decide) present

/-- A number is read back from its digits. -/
@[simp] theorem number?_decimal (value : Nat) : number? 10 (decimal value) = some value :=
  number?_toDigits (by decide) (by decide) value

@[simp] theorem number?_hexadecimal (value : Nat) : number? 16 (hexadecimal value) = some value :=
  number?_toDigits (by decide) (by decide) value

/-- Different numbers have different digits. -/
theorem decimal_injective : Function.Injective decimal := by
  intro value other same
  have read := number?_decimal value
  rw [same, number?_decimal] at read
  exact (Option.some.inj read).symm

/-- Only zero is written with a zero in front. -/
theorem eq_zero_of_head?_decimal
    {value : Nat}
    (zero : (decimal value).head? = some '0') :
    value = 0 := by
  induction value using Nat.base_induction 10 (by decide) with
  | single value small =>
      rw [decimal, Nat.toDigits_of_lt_base small] at zero
      have digit := congrArg Char.toNat (Option.some.inj zero)
      rw [Nat.toNat_digitChar_of_lt_ten small] at digit
      have number : '0'.toNat = 48 := rfl
      omega
  | digit front last small positive inductionHypothesis =>
      rw [decimal, ← Nat.toDigits_append_toDigits (by decide) positive small,
        List.head?_append, Option.or_of_isSome (by simp)] at zero
      have none := inductionHypothesis zero
      omega

/-- What is written for a number is its numeral. -/
theorem numeral_decimal (value : Nat) : Numeral (decimal value) value where
  decimal := fun _ => isDigit_of_mem_decimal
  value := number?_decimal value
  leading := by
    intro zero
    rw [eq_zero_of_head?_decimal zero]
    rfl

end Text
end SerialShare
