import SerialShare.Text.Numeral

/-!
# Durations

A span of time as whole seconds in 64 bits and nanoseconds below one second.  Sums and multiples
exist only while the seconds stay within 64 bits.
-/

namespace SerialShare

/-- Nanoseconds in a second. -/
def nanosecondsPerSecond : Nat := 1000000000

/-- Seconds, and nanoseconds below one second. -/
structure Duration where
  /-- Whole seconds. -/
  seconds : UInt64
  /-- Nanoseconds beyond the whole seconds. -/
  nanoseconds : UInt32
  /-- The nanoseconds never add up to a second. -/
  nanoseconds_lt : nanoseconds.toNat < nanosecondsPerSecond
  deriving DecidableEq

namespace Duration

/-- The length in nanoseconds. -/
def toNanoseconds (duration : Duration) : Nat :=
  duration.seconds.toNat * nanosecondsPerSecond + duration.nanoseconds.toNat

/-- A number of seconds and any number of nanoseconds, carried into the seconds.  There is none
when the seconds leave 64 bits. -/
def ofParts? (seconds nanoseconds : Nat) : Option Duration :=
  if seconds + nanoseconds / nanosecondsPerSecond < UInt64.size then
    some {
      seconds := UInt64.ofNat (seconds + nanoseconds / nanosecondsPerSecond)
      nanoseconds := UInt32.ofNat (nanoseconds % nanosecondsPerSecond)
      nanoseconds_lt := by
        have small : nanoseconds % nanosecondsPerSecond < nanosecondsPerSecond :=
          Nat.mod_lt _ (by decide)
        have fits : nanosecondsPerSecond < 2 ^ 32 := by decide
        rw [UInt32.toNat_ofNat', Nat.mod_eq_of_lt (by omega)]
        exact small }
  else none

/-- Parts whose seconds stay within 64 bits make a duration with exactly those seconds. -/
theorem exists_ofParts?
    (seconds nanoseconds : Nat)
    (fits : seconds + nanoseconds / nanosecondsPerSecond < UInt64.size) :
    ∃ duration, ofParts? seconds nanoseconds = some duration ∧
      duration.seconds.toNat = seconds + nanoseconds / nanosecondsPerSecond := by
  simp only [ofParts?, if_pos fits]
  refine ⟨_, rfl, ?_⟩
  simp only [UInt64.toNat_ofNat']
  exact Nat.mod_eq_of_lt fits

/-- The length of a duration made of parts is the sum of the parts. -/
theorem toNanoseconds_of_ofParts?
    {seconds nanoseconds : Nat}
    {duration : Duration}
    (made : ofParts? seconds nanoseconds = some duration) :
    duration.toNanoseconds = seconds * nanosecondsPerSecond + nanoseconds := by
  unfold ofParts? at made
  split at made
  · rename_i fits
    obtain rfl := Option.some.inj made
    have small : nanoseconds % nanosecondsPerSecond < nanosecondsPerSecond :=
      Nat.mod_lt _ (by decide)
    have word : nanosecondsPerSecond < 2 ^ 32 := by decide
    simp only [toNanoseconds, UInt64.toNat_ofNat', UInt32.toNat_ofNat']
    rw [Nat.mod_eq_of_lt fits, Nat.mod_eq_of_lt (by omega)]
    have parts := Nat.div_add_mod nanoseconds nanosecondsPerSecond
    rw [Nat.add_mul, Nat.mul_comm (nanoseconds / nanosecondsPerSecond)]
    omega
  · cases made

/-- A number of milliseconds. -/
def ofMilliseconds (milliseconds : UInt64) : Duration where
  seconds := milliseconds / 1000
  nanoseconds := UInt32.ofNat (milliseconds.toNat % 1000 * 1000000)
  nanoseconds_lt := by
    have small : milliseconds.toNat % 1000 < 1000 := Nat.mod_lt _ (by decide)
    rw [UInt32.toNat_ofNat', Nat.mod_eq_of_lt (by omega), nanosecondsPerSecond]
    omega

/-- A number of milliseconds is exact. -/
theorem toNanoseconds_ofMilliseconds (milliseconds : UInt64) :
    (ofMilliseconds milliseconds).toNanoseconds = milliseconds.toNat * 1000000 := by
  have small : milliseconds.toNat % 1000 < 1000 := Nat.mod_lt _ (by decide)
  have parts := Nat.div_add_mod milliseconds.toNat 1000
  have thousand : (1000 : UInt64).toNat = 1000 := rfl
  simp only [toNanoseconds, ofMilliseconds, nanosecondsPerSecond, UInt64.toNat_div, thousand,
    UInt32.toNat_ofNat']
  rw [Nat.mod_eq_of_lt (by omega)]
  omega

/-- The sum of two durations, if it is in range. -/
def add? (first second : Duration) : Option Duration :=
  ofParts? (first.seconds.toNat + second.seconds.toNat)
    (first.nanoseconds.toNat + second.nanoseconds.toNat)

/-- A multiple of a duration, if it is in range. -/
def scale? (duration : Duration) (factor : Nat) : Option Duration :=
  ofParts? (duration.seconds.toNat * factor) (duration.nanoseconds.toNat * factor)

theorem toNanoseconds_of_add?
    {first second sum : Duration}
    (made : first.add? second = some sum) :
    sum.toNanoseconds = first.toNanoseconds + second.toNanoseconds := by
  rw [toNanoseconds_of_ofParts? made, toNanoseconds, toNanoseconds, Nat.add_mul]
  omega

theorem toNanoseconds_of_scale?
    {duration multiple : Duration}
    {factor : Nat}
    (made : duration.scale? factor = some multiple) :
    multiple.toNanoseconds = factor * duration.toNanoseconds := by
  rw [toNanoseconds_of_ofParts? made, toNanoseconds, Nat.mul_add, Nat.mul_right_comm,
    Nat.mul_comm duration.nanoseconds.toNat, Nat.mul_comm (_ * _) factor]

/-- A number with a fraction of the given number of digits, and a unit.  Trailing zeros of the
fraction are left out, and the point with them when nothing is left. -/
def inUnit (whole fraction digits : Nat) (unit : String) : String :=
  let written := Text.decimal fraction
  let padded := List.replicate (digits - written.length) '0' ++ written
  let kept := (padded.reverse.dropWhile (· == '0')).reverse
  String.ofList (Text.decimal whole ++ (if kept.isEmpty then [] else '.' :: kept)) ++ unit

/-- A duration in the largest unit of which it holds at least one. -/
def text (duration : Duration) : String :=
  let nanoseconds := duration.nanoseconds.toNat
  if duration.seconds ≠ 0 then inUnit duration.seconds.toNat nanoseconds 9 "s"
  else if 1000000 ≤ nanoseconds then inUnit (nanoseconds / 1000000) (nanoseconds % 1000000) 6 "ms"
  else if 1000 ≤ nanoseconds then inUnit (nanoseconds / 1000) (nanoseconds % 1000) 3 "µs"
  else inUnit nanoseconds 0 0 "ns"

end Duration
end SerialShare
