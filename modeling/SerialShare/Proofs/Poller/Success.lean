import SerialShare.Proofs.Poller.Advance

/-!
# Dialogues that succeed

What has to hold of a device and a board so that a dialogue over a link goes well: none of its
operations fails, it publishes nothing but what is permitted, and its result is as wanted, together
with the device and the board that it leaves.

This is worked out along the dialogue, operation by operation, and says nothing of time.  A dialogue
that succeeds does so when it is carried out as a whole, and when it is carried out one step at a
time with other things in between, as long as these leave the device and the board alone.
-/

namespace SerialShare
namespace Poller

variable {State Result Final : Type}

/-- No operation fails, only what is permitted is published, and the result is as wanted. -/
def Succeeds (link : Device.Link State) (permitted : Status → Prop)
    (wanted : Result → State → Board → Prop) : Dialogue Result → State → Board → Prop
  | .done result, device, board => wanted result device board
  | .wait _ next, device, board => Succeeds link permitted wanted next device board
  | .send bytes next, device, board =>
    (link.write device bytes).result = .ok () ∧
      Succeeds link permitted wanted next (link.write device bytes).state board
  | .collect next, device, board =>
    ∃ bytes, (link.read device).result = .ok bytes ∧
      Succeeds link permitted wanted (next bytes) (link.read device).state board
  | .publish status next, device, board =>
    permitted status ∧ Succeeds link permitted wanted next device (board.publish status)
  | .record _ next, device, board => Succeeds link permitted wanted next device board

section Equations

variable (link : Device.Link State) (permitted : Status → Prop)
  (wanted : Result → State → Board → Prop) (next : Dialogue Result) (device : State)
  (board : Board)

@[simp] theorem succeeds_done (result : Result) :
    Succeeds link permitted wanted (.done result) device board ↔ wanted result device board :=
  Iff.rfl

@[simp] theorem succeeds_wait (milliseconds : UInt64) :
    Succeeds link permitted wanted (.wait milliseconds next) device board ↔
      Succeeds link permitted wanted next device board :=
  Iff.rfl

@[simp] theorem succeeds_send (bytes : Bytes) :
    Succeeds link permitted wanted (.send bytes next) device board ↔
      (link.write device bytes).result = .ok () ∧
        Succeeds link permitted wanted next (link.write device bytes).state board :=
  Iff.rfl

@[simp] theorem succeeds_collect (next : Bytes → Dialogue Result) :
    Succeeds link permitted wanted (.collect next) device board ↔
      ∃ bytes, (link.read device).result = .ok bytes ∧
        Succeeds link permitted wanted (next bytes) (link.read device).state board :=
  Iff.rfl

@[simp] theorem succeeds_publish (status : Status) :
    Succeeds link permitted wanted (.publish status next) device board ↔
      permitted status ∧ Succeeds link permitted wanted next device (board.publish status) :=
  Iff.rfl

@[simp] theorem succeeds_record (event : Log.Event) :
    Succeeds link permitted wanted (.record event next) device board ↔
      Succeeds link permitted wanted next device board :=
  Iff.rfl

end Equations

variable {link : Device.Link State} {permitted : Status → Prop} {clock : Clock}

/-- What goes on after a dialogue has to succeed from wherever the dialogue leads. -/
theorem succeeds_bind
    {wanted : Final → State → Board → Prop}
    {dialogue : Dialogue Result}
    {continuation : Result → Dialogue Final}
    {device : State}
    {board : Board} :
    Succeeds link permitted wanted (dialogue.bind continuation) device board ↔
      Succeeds link permitted
        (fun result device board =>
          Succeeds link permitted wanted (continuation result) device board)
        dialogue device board := by
  induction dialogue generalizing device board with
  | done result => rfl
  | wait milliseconds next inductionHypothesis => exact inductionHypothesis
  | send bytes next inductionHypothesis => exact and_congr_right fun _ => inductionHypothesis
  | collect next inductionHypothesis =>
      exact exists_congr fun bytes => and_congr_right fun _ => inductionHypothesis bytes
  | publish status next inductionHypothesis => exact and_congr_right fun _ => inductionHypothesis
  | record event next inductionHypothesis => exact inductionHypothesis

variable {wanted : Result → State → Board → Prop} {dialogue : Dialogue Result}

/-- Without a deadline, one step of a dialogue that succeeds publishes what is permitted, and either
leaves a dialogue that succeeds or comes to a result that is wanted. -/
theorem Succeeds.advance
    (station : Station State)
    (succeeds : Succeeds link permitted wanted dialogue station.device station.board)
    (unlimited : clock.deadline = none) :
    let advance := advance link clock station dialogue
    (∀ status ∈ advance.published, permitted status) ∧
      match advance.remainder with
      | .more next =>
        Succeeds link permitted wanted next advance.station.device advance.station.board
      | .ended ending =>
        ∃ result, ending = .finished result ∧
          wanted result advance.station.device advance.station.board := by
  cases dialogue with
  | done result => exact ⟨List.forall_mem_nil permitted, result, rfl, succeeds⟩
  | wait milliseconds next =>
      simp only [Poller.advance, unlimited]
      exact ⟨List.forall_mem_nil permitted, succeeds⟩
  | send bytes next =>
      obtain ⟨written, rest⟩ := succeeds
      simp only [Poller.advance, written]
      exact ⟨List.forall_mem_nil permitted, rest⟩
  | collect next =>
      obtain ⟨bytes, collected, rest⟩ := succeeds
      simp only [Poller.advance, collected]
      exact ⟨List.forall_mem_nil permitted, rest⟩
  | publish status next => exact ⟨List.forall_mem_singleton.mpr succeeds.1, succeeds.2⟩
  | record event next => exact ⟨List.forall_mem_nil permitted, succeeds⟩

/-- Without a deadline, a dialogue that succeeds comes to a result that is wanted. -/
theorem Succeeds.play
    (station : Station State)
    (succeeds : Succeeds link permitted wanted dialogue station.device station.board)
    (unlimited : clock.deadline = none) :
    ∃ result, (play link clock station dialogue).ending = .finished result ∧
      wanted result (play link clock station dialogue).station.device
        (play link clock station dialogue).station.board := by
  induction dialogue generalizing station with
  | done result => exact ⟨result, rfl, succeeds⟩
  | wait milliseconds next inductionHypothesis =>
      simp only [Poller.play, unlimited]
      exact inductionHypothesis _ succeeds
  | send bytes next inductionHypothesis =>
      obtain ⟨written, rest⟩ := succeeds
      rw [play_send_ok written]
      exact inductionHypothesis _ rest
  | collect next inductionHypothesis =>
      obtain ⟨bytes, collected, rest⟩ := succeeds
      rw [play_collect_ok collected]
      exact inductionHypothesis bytes _ rest
  | publish status next inductionHypothesis =>
      exact inductionHypothesis { station with board := station.board.publish status } succeeds.2
  | record event next inductionHypothesis => exact inductionHypothesis station succeeds

-- What holds of a concrete dialogue is to be taken apart with the equations above.  Unfolding would
-- go on to work out the bytes that are collected.
attribute [irreducible] Succeeds

end Poller
end SerialShare
