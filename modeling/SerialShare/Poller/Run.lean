import SerialShare.Device.Link
import SerialShare.Poller.Rotation
import SerialShare.Snapshot.Store

/-!
# Polling

How dialogues are carried out over a link, with a clock that moves only while the poller waits.  A
failed operation ends a dialogue at once, and what had been published until then stays published.

A clock may have a deadline, and it may not be able to measure waits beyond a certain length.  An
exact clock is not limited in any way.
-/

namespace SerialShare
namespace Poller

/-- What a clock can measure. -/
structure Clock where
  /-- When all waiting ends. -/
  deadline : Option Nat
  /-- The longest wait that can be measured.  Longer ones take as long as this one. -/
  longestWait : Option Nat
  deriving DecidableEq, Repr

namespace Clock

/-- A clock without any limit. -/
def exact : Clock := ⟨none, none⟩

/-- How long a wait takes, in milliseconds. -/
def span (clock : Clock) (milliseconds : UInt64) : Nat :=
  match clock.longestWait with
  | none => milliseconds.toNat
  | some longest => min milliseconds.toNat longest

@[simp] theorem span_exact (milliseconds : UInt64) :
    exact.span milliseconds = milliseconds.toNat := rfl

/-- How long one rotation takes, in milliseconds. -/
def period (clock : Clock) (timing : Timing) : Nat :=
  3 * (clock.span timing.settle + clock.span timing.latency)

/-- More rotations than fit into a span of time.  When rotations take no time at all, a given
number of them has to do. -/
def rotationsWithin (clock : Clock) (timing : Timing) (standing milliseconds : Nat) : Nat :=
  if clock.period timing = 0 then standing else milliseconds / clock.period timing + 1

end Clock

/-- Everything a dialogue acts on. -/
structure Station (State : Type) where
  /-- The state of the link. -/
  device : State
  /-- The time in milliseconds. -/
  now : Nat
  /-- Where statuses are published. -/
  board : Board

/-- What was done on the link, and with what result. -/
inductive Action where
  /-- Bytes were written. -/
  | wrote (bytes : Bytes) (result : Except IoFault Unit)
  /-- What had arrived was taken. -/
  | took (result : Except IoFault Bytes)

/-- An action and when it happened. -/
structure Operation where
  /-- The time in milliseconds. -/
  instant : Nat
  /-- What was done. -/
  action : Action

/-- Why a dialogue is over. -/
inductive Ending (Result : Type) where
  /-- It came to its result. -/
  | finished (result : Result)
  /-- The link failed. -/
  | failed (fault : Fault)
  /-- The time was up, or no more was asked for. -/
  | interrupted
  deriving DecidableEq

/-- A dialogue carried out. -/
structure Played (State Result : Type) where
  /-- How it leaves things. -/
  station : Station State
  /-- What was done on the link, in order. -/
  operations : List Operation
  /-- What was recorded, in order. -/
  events : List Log.Event
  /-- Why it is over. -/
  ending : Ending Result

variable {State Result : Type}

/-- Put what happened before in front. -/
def Played.after (played : Played State Result) (operations : List Operation)
    (events : List Log.Event) : Played State Result :=
  { played with
    operations := operations ++ played.operations
    events := events ++ played.events }

/-- Carry out a dialogue over a link.  A wait that goes beyond the deadline ends there. -/
def play (link : Device.Link State) (clock : Clock) :
    Station State → Dialogue Result → Played State Result
  | station, .done result => ⟨station, [], [], .finished result⟩
  | station, .wait milliseconds next =>
    let wake := station.now + clock.span milliseconds
    match clock.deadline with
    | none => play link clock { station with now := wake } next
    | some deadline =>
      if deadline < wake then ⟨{ station with now := deadline }, [], [], .interrupted⟩
      else play link clock { station with now := wake } next
  | station, .send bytes next =>
    let answer := link.write station.device bytes
    let station := { station with device := answer.state }
    let operation : Operation := ⟨station.now, .wrote bytes answer.result⟩
    match answer.result with
    | .ok () => (play link clock station next).after [operation] answer.events
    | .error fault => ⟨station, [operation], answer.events, .failed (.deviceIo link.name fault)⟩
  | station, .collect next =>
    let answer := link.read station.device
    let station := { station with device := answer.state }
    let operation : Operation := ⟨station.now, .took answer.result⟩
    match answer.result with
    | .ok bytes => (play link clock station (next bytes)).after [operation] answer.events
    | .error fault => ⟨station, [operation], answer.events, .failed (.deviceIo link.name fault)⟩
  | station, .publish status next =>
    play link clock { station with board := station.board.publish status } next
  | station, .record event next => (play link clock station next).after [] [event]

/-- Carry out a number of rotations, and stop before that only at one that does not come to its end.
There is always another rotation to do, so polling never finishes. -/
def rotate (link : Device.Link State) (timing : Timing) (clock : Clock) :
    Nat → Station State → Played State Empty
  | 0, station => ⟨station, [], [], .interrupted⟩
  | rotations + 1, station =>
    let played := play link clock station (rotation timing)
    match played.ending with
    | .finished _ =>
      (rotate link timing clock rotations played.station).after played.operations played.events
    | .failed fault =>
      ⟨played.station, played.operations, played.events ++ [.pollingStopped fault], .failed fault⟩
    | .interrupted => ⟨played.station, played.operations, played.events, .interrupted⟩

/-- Poll until the link fails, the deadline is reached or a number of rotations is done. -/
def run (link : Device.Link State) (timing : Timing) (clock : Clock) (rotations : Nat)
    (station : Station State) : Played State Empty :=
  (rotate link timing clock rotations station).after [] [.pollingStarted timing.period]

end Poller
end SerialShare
