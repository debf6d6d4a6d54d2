import SerialShare.Poller.Dialogue

/-!
# The rotation

The poller goes through the same requests again and again: the status request, whose response is
decoded and published, and the auxiliary commands.  Every request lets the device settle, sends the
command, gives the device time to answer, and collects what arrived.
-/

namespace SerialShare

/-- The waits around each request.  Both are durations of whole milliseconds, and they are carried
as their numbers of milliseconds, of 64 bits each: a duration with a finer part, or a longer one,
is no timing here. -/
structure Timing where
  /-- How long to let the device settle before a command. -/
  settle : UInt64
  /-- How long to wait for the response to a command. -/
  latency : UInt64
  deriving DecidableEq, Repr

namespace Timing

/-- The waits that suit the device. -/
def standard : Timing := ⟨700, 150⟩

/-- How long one rotation of three requests takes, if that is a duration at all. -/
def period? (timing : Timing) : Option Duration :=
  ((Duration.ofMilliseconds timing.settle).add? (Duration.ofMilliseconds timing.latency)).bind
    (·.scale? 3)

/-- No waits are too long for one rotation to have a duration: the seconds in 64 bits of
milliseconds leave room for six of them. -/
theorem period?_isSome (timing : Timing) : timing.period?.isSome = true := by
  have settle := timing.settle.toNat_lt
  have latency := timing.latency.toNat_lt
  have seconds (milliseconds : UInt64) :
      (Duration.ofMilliseconds milliseconds).seconds.toNat = milliseconds.toNat / 1000 := by
    simp [Duration.ofMilliseconds, UInt64.toNat_div]
  have settleNanoseconds := (Duration.ofMilliseconds timing.settle).nanoseconds_lt
  have latencyNanoseconds := (Duration.ofMilliseconds timing.latency).nanoseconds_lt
  obtain ⟨sum, sumMade, sumSeconds⟩ :
      ∃ sum, (Duration.ofMilliseconds timing.settle).add? (Duration.ofMilliseconds timing.latency) =
          some sum ∧ sum.seconds.toNat ≤ 2 * (2 ^ 64 / 1000) + 1 := by
    obtain ⟨sum, made, equal⟩ := Duration.exists_ofParts?
      ((Duration.ofMilliseconds timing.settle).seconds.toNat +
        (Duration.ofMilliseconds timing.latency).seconds.toNat)
      ((Duration.ofMilliseconds timing.settle).nanoseconds.toNat +
        (Duration.ofMilliseconds timing.latency).nanoseconds.toNat)
      (by simp only [seconds, nanosecondsPerSecond, UInt64.size] at *; omega)
    refine ⟨sum, made, ?_⟩
    simp only [seconds, nanosecondsPerSecond] at *
    omega
  have sumNanoseconds := sum.nanoseconds_lt
  obtain ⟨period, made, _⟩ := Duration.exists_ofParts?
    (sum.seconds.toNat * 3) (sum.nanoseconds.toNat * 3)
    (by simp only [nanosecondsPerSecond, UInt64.size] at *; omega)
  simp [period?, sumMade, Duration.scale?, made]

/-- How long one rotation takes. -/
def period (timing : Timing) : Duration :=
  timing.period?.get timing.period?_isSome

/-- One rotation takes three times both waits, exactly. -/
theorem toNanoseconds_period (timing : Timing) :
    timing.period.toNanoseconds =
      3 * ((timing.settle.toNat + timing.latency.toNat) * 1000000) := by
  have made : timing.period? = some timing.period := (Option.some_get _).symm
  obtain ⟨sum, added, scaled⟩ := Option.bind_eq_some_iff.mp made
  rw [Duration.toNanoseconds_of_scale? scaled, Duration.toNanoseconds_of_add? added,
    Duration.toNanoseconds_ofMilliseconds, Duration.toNanoseconds_ofMilliseconds, Nat.add_mul]

end Timing

/-- What became of a status request. -/
inductive Outcome where
  /-- A status was published. -/
  | published
  /-- The response did not decode, and the latest status stays. -/
  | rejected (reason : Frame.Malformed)
  /-- The device did not answer, and the latest status stays. -/
  | noData
  deriving DecidableEq, Repr

namespace Poller

open Device (Command Response)

/-- One request, up to its response. -/
def request (timing : Timing) (command : Command) : Dialogue Response :=
  .wait timing.settle <| .send command.wire <| .wait timing.latency <|
    .collect fun bytes => .done (.ofBytes bytes)

/-- Publish the status in a response, or record why there is none. -/
def publication : Response → Dialogue Outcome
  | .noData => .record .statusMissing (.done .noData)
  | .data frame =>
    match Frame.decode frame with
    | .ok status => .record (.statusPublished status) (.publish status (.done .published))
    | .error reason => .record (.frameRejected reason (.data frame)) (.done (.rejected reason))

/-- Requests whose responses are only recorded. -/
def auxiliaries (timing : Timing) : List Command → Dialogue Unit
  | [] => .done ()
  | command :: rest =>
    (request timing command).bind fun response =>
      .record (.auxiliaryAnswered command response) (auxiliaries timing rest)

/-- One rotation of all commands, up to what became of its status request. -/
def rotation (timing : Timing) : Dialogue Outcome :=
  (request timing .statusRequest).bind fun response =>
    (publication response).bind fun outcome =>
      (auxiliaries timing Command.auxiliary).bind fun _ => .done outcome

end Poller
end SerialShare
