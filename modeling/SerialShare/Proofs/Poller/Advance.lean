import SerialShare.Proofs.Poller.Play

/-!
# Dialogues one step at a time

`advance` does the next thing that a dialogue says and leaves the rest of it, so that others can do
something in between.  Doing this again and again, with nothing in between, carries the dialogue out.
-/

namespace SerialShare
namespace Poller

variable {State Result : Type}

/-- What is left of a dialogue. -/
inductive Remainder (Result : Type) where
  /-- There is more to do. -/
  | more (next : Dialogue Result)
  /-- It is over. -/
  | ended (ending : Ending Result)

/-- What doing the next thing of a dialogue comes to. -/
structure Advance (State Result : Type) where
  /-- How it leaves things. -/
  station : Station State
  /-- What was done on the link. -/
  operations : List Operation
  /-- What was recorded. -/
  events : List Log.Event
  /-- What was published. -/
  published : List Status
  /-- What is left. -/
  remainder : Remainder Result

/-- Do the next thing of a dialogue. -/
def advance (link : Device.Link State) (clock : Clock) (station : Station State) :
    Dialogue Result → Advance State Result
  | .done result => ⟨station, [], [], [], .ended (.finished result)⟩
  | .wait milliseconds next =>
    let wake := station.now + clock.span milliseconds
    match clock.deadline with
    | none => ⟨{ station with now := wake }, [], [], [], .more next⟩
    | some deadline =>
      if deadline < wake then ⟨{ station with now := deadline }, [], [], [], .ended .interrupted⟩
      else ⟨{ station with now := wake }, [], [], [], .more next⟩
  | .send bytes next =>
    let answer := link.write station.device bytes
    let operation : Operation := ⟨station.now, .wrote bytes answer.result⟩
    ⟨{ station with device := answer.state }, [operation], answer.events, [],
      match answer.result with
      | .ok () => .more next
      | .error fault => .ended (.failed (.deviceIo link.name fault))⟩
  | .collect next =>
    let answer := link.read station.device
    let operation : Operation := ⟨station.now, .took answer.result⟩
    ⟨{ station with device := answer.state }, [operation], answer.events, [],
      match answer.result with
      | .ok bytes => .more (next bytes)
      | .error fault => .ended (.failed (.deviceIo link.name fault))⟩
  | .publish status next =>
    ⟨{ station with board := station.board.publish status }, [], [], [status], .more next⟩
  | .record event next => ⟨station, [], [event], [], .more next⟩

/-- What is published is on the board afterwards, and nothing else changes it. -/
theorem board_advance
    (link : Device.Link State)
    (clock : Clock)
    (station : Station State)
    (dialogue : Dialogue Result) :
    (advance link clock station dialogue).station.board =
      (advance link clock station dialogue).published.foldl Board.publish station.board := by
  cases dialogue with
  | wait milliseconds next =>
      simp only [advance]
      split
      · rfl
      · split <;> rfl
  | done result => rfl
  | send bytes next => rfl
  | collect next => rfl
  | publish status next => rfl
  | record event next => rfl

/-- Carrying out a dialogue is doing the next thing and carrying out what is left. -/
theorem play_eq_advance
    (link : Device.Link State)
    (clock : Clock)
    (station : Station State)
    (dialogue : Dialogue Result) :
    play link clock station dialogue =
      match (advance link clock station dialogue).remainder with
      | .more next =>
        (play link clock (advance link clock station dialogue).station next).after
          (advance link clock station dialogue).operations
          (advance link clock station dialogue).events
      | .ended ending =>
        ⟨(advance link clock station dialogue).station,
          (advance link clock station dialogue).operations,
          (advance link clock station dialogue).events, ending⟩ := by
  cases dialogue with
  | done result => rfl
  | wait milliseconds next =>
      cases limited : clock.deadline with
      | none =>
          simp only [play, advance, limited]
          rfl
      | some deadline =>
          by_cases early : deadline < station.now + clock.span milliseconds
          · simp only [play, advance, limited, if_pos early]
          · simp only [play, advance, limited, if_neg early]
            rfl
  | send bytes next =>
      cases written : (link.write station.device bytes).result with
      | ok done => simp only [play, advance, written]
      | error fault => simp only [play, advance, written]
  | collect next =>
      cases collected : (link.read station.device).result with
      | ok bytes => simp only [play, advance, collected]
      | error fault => simp only [play, advance, collected]
  | publish status next => rfl
  | record event next => rfl

end Poller
end SerialShare
