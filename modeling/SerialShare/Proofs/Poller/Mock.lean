import SerialShare.Device.Mock
import SerialShare.Proofs.Poller.Publication
import SerialShare.Proofs.Poller.Success

/-!
# Polling a device in memory

A device in memory answers every command in full, and everything it answered is taken at the next
reading.  So each request leaves it as fresh as it was, and a rotation comes to what the answer to
the status request alone decides.
-/

namespace SerialShare
namespace Poller

open Device (Command Response Mock)

variable {name : String} {timing : Timing} {status : Status} {board : Board}
  {permitted : Status → Prop}

/-- A request takes its own answer, and nothing is left over. -/
theorem succeeds_request_mock
    {wanted : Response → Mock → Board → Prop}
    {command : Command}
    (answered : wanted (.ofBytes (Mock.answer status command.wire)) (.new status) board) :
    Succeeds (Mock.link name) permitted wanted (request timing command) (.new status) board := by
  rw [request, succeeds_wait, succeeds_send, succeeds_wait, succeeds_collect]
  refine ⟨rfl, Mock.answer status command.wire, rfl, ?_⟩
  rw [succeeds_done]
  exact answered

theorem succeeds_auxiliaries_mock
    {wanted : Unit → Mock → Board → Prop}
    (commands : List Command)
    (passed : wanted () (.new status) board) :
    Succeeds (Mock.link name) permitted wanted (auxiliaries timing commands) (.new status)
      board := by
  induction commands with
  | nil => rwa [auxiliaries, succeeds_done]
  | cons command rest inductionHypothesis =>
      rw [auxiliaries, succeeds_bind]
      apply succeeds_request_mock
      rw [succeeds_record]
      exact inductionHypothesis

/-- Judging bytes publishes the status that they decode to, and nothing else. -/
theorem succeeds_publication
    {State : Type}
    {link : Device.Link State}
    {device : State}
    {wanted : Outcome → State → Board → Prop}
    {bytes : Bytes}
    (publishable : ∀ status, decoded? bytes = some status → permitted status)
    (judged : wanted (verdict bytes) device (Board.shown board bytes)) :
    Succeeds link permitted wanted (publication (.ofBytes bytes)) device board := by
  cases bytes with
  | nil =>
      rw [Response.ofBytes, publication, succeeds_record, succeeds_done]
      exact judged
  | cons byte bytes =>
      simp only [Board.shown, decoded?, verdict, if_neg (List.cons_ne_nil byte bytes)]
        at publishable judged
      simp only [Response.ofBytes, publication]
      cases read : Frame.decode (byte :: bytes) with
      | ok status =>
          simp only [read, Except.toOption] at publishable judged
          rw [succeeds_record, succeeds_publish, succeeds_done]
          exact ⟨publishable status rfl, judged⟩
      | error reason =>
          simp only [read, Except.toOption] at judged
          rwa [succeeds_record, succeeds_done]

/-- A rotation comes to what the answer to the status request is, shows it on the board, and leaves
the device as it was. -/
theorem succeeds_rotation_mock
    {wanted : Outcome → Mock → Board → Prop}
    (publishable : ∀ published,
      decoded? (Mock.answer status Command.statusRequest.wire) = some published →
        permitted published)
    (judged : wanted (verdict (Mock.answer status Command.statusRequest.wire)) (.new status)
      (Board.shown board (Mock.answer status Command.statusRequest.wire))) :
    Succeeds (Mock.link name) permitted wanted (rotation timing) (.new status) board := by
  rw [rotation, succeeds_bind]
  apply succeeds_request_mock
  rw [succeeds_bind]
  apply succeeds_publication publishable
  rw [succeeds_bind]
  apply succeeds_auxiliaries_mock
  rwa [succeeds_done]

/-- A rotation that is carried out as a whole. -/
theorem play_rotation_mock
    (name : String)
    (timing : Timing)
    (status : Status)
    (now : Nat)
    (board : Board) :
    ∃ later operations events,
      play (Mock.link name) .exact ⟨.new status, now, board⟩ (rotation timing) =
        { station :=
            { device := .new status
              now := later
              board := Board.shown board (Mock.answer status Command.statusRequest.wire) }
          operations
          events
          ending := .finished (verdict (Mock.answer status Command.statusRequest.wire)) } := by
  have succeeds : Succeeds (Mock.link name) (fun _ => True)
      (fun outcome device after =>
        outcome = verdict (Mock.answer status Command.statusRequest.wire) ∧
          device = .new status ∧
          after = Board.shown board (Mock.answer status Command.statusRequest.wire))
      (rotation timing) (.new status) board := by
    apply succeeds_rotation_mock
    · exact fun _ _ => trivial
    · exact ⟨rfl, rfl, rfl⟩
  obtain ⟨outcome, ending, outcomeEqual, deviceEqual, boardEqual⟩ :=
    succeeds.play ⟨Mock.new status, now, board⟩ (rfl : Clock.exact.deadline = none)
  generalize play (Mock.link name) .exact ⟨.new status, now, board⟩ (rotation timing) = played
    at ending deviceEqual boardEqual ⊢
  refine ⟨played.station.now, played.operations, played.events, ?_⟩
  rw [← outcomeEqual, ← ending, ← deviceEqual, ← boardEqual]

end Poller
end SerialShare
