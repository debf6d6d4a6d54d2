import SerialShare.Poller.Run

/-!
# The period of a rotation

A duration is nothing but its number of nanoseconds, and every number of nanoseconds that makes less
than `2 ^ 64` seconds is a duration.  So a sum or a multiple is what its number says as soon as that
number is in range, whatever is carried from the nanoseconds to the seconds.

The main statement is about the period of a poller: waits of 64 bits in milliseconds are so much
shorter than the longest duration that six of them are in range.
-/

namespace SerialShare
namespace Duration

/-! ## Durations and their numbers -/

theorem toNat_seconds (duration : Duration) :
    duration.seconds.toNat = duration.toNanoseconds / nanosecondsPerSecond := by
  have small := duration.nanoseconds_lt
  rw [toNanoseconds, Nat.mul_comm, Nat.mul_add_div (Nat.zero_lt_of_lt small),
    Nat.div_eq_of_lt small, Nat.add_zero]

theorem toNat_nanoseconds (duration : Duration) :
    duration.nanoseconds.toNat = duration.toNanoseconds % nanosecondsPerSecond := by
  rw [toNanoseconds, Nat.mul_add_mod_self_right, Nat.mod_eq_of_lt duration.nanoseconds_lt]

/-- Durations of the same length are the same. -/
theorem toNanoseconds_injective : Function.Injective toNanoseconds := by
  intro first second same
  have seconds : first.seconds = second.seconds := by
    apply UInt64.toNat.inj
    rw [toNat_seconds, toNat_seconds, same]
  have nanoseconds : first.nanoseconds = second.nanoseconds := by
    apply UInt32.toNat.inj
    rw [toNat_nanoseconds, toNat_nanoseconds, same]
  cases first
  cases second
  simp_all

/-- Parts make the duration of their common length, and no other. -/
theorem ofParts?_eq_some_iff
    {seconds nanoseconds : Nat}
    {duration : Duration} :
    ofParts? seconds nanoseconds = some duration ↔
      duration.toNanoseconds = seconds * nanosecondsPerSecond + nanoseconds := by
  constructor
  · exact toNanoseconds_of_ofParts?
  · intro length
    have carried : seconds + nanoseconds / nanosecondsPerSecond = duration.seconds.toNat := by
      rw [toNat_seconds, length, Nat.mul_comm, Nat.mul_add_div (by decide)]
    obtain ⟨made, isMade, -⟩ := exists_ofParts? seconds nanoseconds
      (carried ▸ duration.seconds.toNat_lt)
    rw [isMade]
    apply congrArg some
    apply toNanoseconds_injective
    rw [toNanoseconds_of_ofParts? isMade, length]

theorem add?_eq_some_iff
    {first second sum : Duration} :
    first.add? second = some sum ↔
      sum.toNanoseconds = first.toNanoseconds + second.toNanoseconds := by
  simp only [add?, ofParts?_eq_some_iff, toNanoseconds, Nat.add_mul]
  omega

theorem scale?_eq_some_iff
    {duration multiple : Duration}
    {factor : Nat} :
    duration.scale? factor = some multiple ↔
      multiple.toNanoseconds = factor * duration.toNanoseconds := by
  simp only [scale?, ofParts?_eq_some_iff, toNanoseconds, Nat.mul_comm factor, Nat.add_mul]
  rw [Nat.mul_right_comm]

/-- Every length below `2 ^ 64` seconds is the length of a duration. -/
theorem exists_toNanoseconds_eq
    (length : Nat)
    (short : length < UInt64.size * nanosecondsPerSecond) :
    ∃ duration : Duration, duration.toNanoseconds = length := by
  have inRange : 0 + length / nanosecondsPerSecond < UInt64.size := by
    rw [Nat.zero_add, Nat.div_lt_iff_lt_mul (by decide)]
    exact short
  obtain ⟨duration, made, -⟩ := exists_ofParts? 0 length inRange
  refine ⟨duration, ?_⟩
  rw [toNanoseconds_of_ofParts? made, Nat.zero_mul, Nat.zero_add]

/-! ## Words on the way -/

/-- No word is too small when two durations are added, with one second carried. -/
structure SumFits (first second : Duration) : Prop where
  /-- The seconds leave room for the carry. -/
  seconds : first.seconds.toNat + second.seconds.toNat + 1 < UInt64.size
  /-- The nanoseconds fit into their word before anything is carried. -/
  nanoseconds : first.nanoseconds.toNat + second.nanoseconds.toNat < UInt32.size

/-- No word is too small when a duration is multiplied, with the seconds carried. -/
structure MultipleFits (duration : Duration) (factor : Nat) : Prop where
  /-- The seconds leave room for the carry, which is at most the factor. -/
  seconds : duration.seconds.toNat * factor + factor < UInt64.size
  /-- The nanoseconds fit into the wider word before anything is carried. -/
  nanoseconds : duration.nanoseconds.toNat * factor < UInt64.size

end Duration

namespace Poller

/-- Whatever the waits are, neither their sum nor three times that leaves the range of durations,
and no word overflows on the way.  The period that a poller records when it starts is three times
both waits, exactly, also where that is no number of milliseconds in 64 bits. -/
theorem period_is_in_range_and_exact
    (timing : Timing) :
    let settle := Duration.ofMilliseconds timing.settle
    let latency := Duration.ofMilliseconds timing.latency
    let milliseconds := 3 * (timing.settle.toNat + timing.latency.toNat)
    ∃ sum period : Duration,
      settle.SumFits latency ∧
      settle.add? latency = some sum ∧
      sum.MultipleFits 3 ∧
      sum.scale? 3 = some period ∧
      period.toNanoseconds = milliseconds * 1000000 ∧
      period.seconds.toNat = milliseconds / 1000 ∧
      period.nanoseconds.toNat = milliseconds % 1000 * 1000000 ∧
      ∀ {State : Type} (link : Device.Link State) (clock : Clock) (rotations : Nat)
        (station : Station State),
        (run link timing clock rotations station).events.head? =
          some (.pollingStarted period) := by
  intro settle latency milliseconds
  have settleLength : settle.toNanoseconds = timing.settle.toNat * 1000000 :=
    Duration.toNanoseconds_ofMilliseconds timing.settle
  have latencyLength : latency.toNanoseconds = timing.latency.toNat * 1000000 :=
    Duration.toNanoseconds_ofMilliseconds timing.latency
  have settleBound := timing.settle.toNat_lt
  have latencyBound := timing.latency.toNat_lt
  -- The sum is a duration, because it is shorter than the longest one.
  obtain ⟨sum, sumLength⟩ := Duration.exists_toNanoseconds_eq
    (settle.toNanoseconds + latency.toNanoseconds)
    (by simp only [nanosecondsPerSecond, UInt64.size]; omega)
  have periodLength : timing.period.toNanoseconds = 3 * sum.toNanoseconds := by
    rw [Timing.toNanoseconds_period, sumLength, settleLength, latencyLength]
    omega
  have length : timing.period.toNanoseconds = milliseconds * 1000000 := by
    rw [Timing.toNanoseconds_period]
    omega
  refine ⟨sum, timing.period, ?_, Duration.add?_eq_some_iff.mpr sumLength, ?_,
    Duration.scale?_eq_some_iff.mpr periodLength, length, ?_, ?_, ?_⟩
  · have small := settle.nanoseconds_lt
    have latencySmall := latency.nanoseconds_lt
    constructor
    · rw [Duration.toNat_seconds, Duration.toNat_seconds, settleLength, latencyLength]
      simp only [nanosecondsPerSecond, UInt64.size]
      omega
    · simp only [nanosecondsPerSecond, UInt32.size] at *
      omega
  · have small := sum.nanoseconds_lt
    constructor
    · rw [Duration.toNat_seconds, sumLength, settleLength, latencyLength]
      simp only [nanosecondsPerSecond, UInt64.size]
      omega
    · simp only [nanosecondsPerSecond, UInt64.size] at *
      omega
  · rw [Duration.toNat_seconds, length, nanosecondsPerSecond]
    omega
  · rw [Duration.toNat_nanoseconds, length, nanosecondsPerSecond]
    omega
  · intro State link clock rotations station
    rfl

/-- Six times the greatest wait is no number of milliseconds in 64 bits, and yet a duration. -/
example :
    UInt64.size ≤ 6 * 0xFFFFFFFFFFFFFFFF ∧
      (Timing.mk 0xFFFFFFFFFFFFFFFF 0xFFFFFFFFFFFFFFFF).period.text = "110680464442257309.69s" := by
  decide +kernel

end Poller
end SerialShare
