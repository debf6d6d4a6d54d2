import Mathlib.Data.List.Forall2
import SerialShare.Proofs.Bridge.Order
import SerialShare.Proofs.Frame.Writing
import SerialShare.Proofs.Poller.Mock

/-!
# The bridge over a device in memory

A device in memory that reports one status is polled, and clients are answered.  What every call
comes to is known beforehand: a request returns the response to its own command, and a rotation
publishes the status as a frame can carry it, or is rejected because no frame can.

The main statement says so of calls made one after the other, and of the small steps of a whole
bridge in any order, where every reply is worked out from what a frame can carry of the status, or
from nothing as long as no rotation has come to its end.
-/

namespace SerialShare
namespace Bridge

open Device (Command Response Mock)
open Poller (Call Ending Transcript)

/-! ## What is known beforehand -/

/-- There is a control character among the contacts. -/
def Unreadable (status : Status) : Prop :=
  ∃ contact ∈ status.dryContacts.toList, Frame.IsControlCharacter contact

instance (status : Status) : Decidable (Unreadable status) :=
  inferInstanceAs (Decidable (∃ contact ∈ status.dryContacts.toList, _))

/-- What a frame carries of a status: nothing if it is unreadable, and otherwise the status with only
the last digit of the relay's state. -/
def reported (status : Status) : Snapshot :=
  if Unreadable status then none else some { status with relay := status.relay % 10 }

/-- What becomes of a rotation, which gets the frame of a status. -/
def judgement (status : Status) : Outcome :=
  if Unreadable status then
    .rejected (.badField ⟨"dry contact", 20, 40, .raw⟩ (Text.lossy status.dryContacts.toList))
  else .published

/-- The response to a command: a frame and the end of a line, or the command itself. -/
def response (status : Status) : Command → Bytes
  | .statusRequest => Frame.encode status ++ [0x0D, 0x0A]
  | command => command.wire

/-- What a call comes to. -/
def result (status : Status) : Call → Outcome ⊕ Response
  | .poll => .inl (judgement status)
  | .request command => .inr (.data (response status command))

/-- A call came to what was known beforehand. -/
def Came (status : Status) : Call → Transcript → Prop
  | .poll, .polled _ ending => ending = .finished (judgement status)
  | .request command, .requested sent _ ending =>
    sent = command ∧ ending = .finished (.data (response status command))
  | _, _ => False

theorem answer_wire
    (status : Status)
    (command : Command) :
    Mock.answer status command.wire = response status command := by
  rw [Mock.answer, Command.ofWire?_wire]
  cases command <;> rfl

theorem ofBytes_response
    (status : Status)
    (command : Command) :
    Response.ofBytes (response status command) = .data (response status command) := by
  cases command <;> rfl

theorem decode_response (status : Status) :
    Frame.decode (response status .statusRequest) =
      if Unreadable status then
        .error (.badField ⟨"dry contact", 20, 40, .raw⟩ (Text.lossy status.dryContacts.toList))
      else .ok { status with relay := status.relay % 10 } := by
  have control : status.dryContacts.toList.any Frame.isControl = true ↔ Unreadable status := by
    simp only [Unreadable, List.any_eq_true, Frame.isControl_eq, decide_eq_true_eq]
  have read := Frame.decode_encode_append status [0x0D, 0x0A]
  simp only [control] at read
  exact read

theorem response_ne_nil (status : Status) : response status .statusRequest ≠ [] := by
  intro nothing
  have size := Frame.length_encode status
  rw [(List.append_eq_nil_iff.mp nothing).1] at size
  cases size

theorem decoded?_response (status : Status) :
    Poller.decoded? (response status .statusRequest) = reported status := by
  rw [Poller.decoded?, if_neg (response_ne_nil status), decode_response, reported]
  by_cases unreadable : Unreadable status
  · rw [if_pos unreadable, if_pos unreadable]
    rfl
  · rw [if_neg unreadable, if_neg unreadable]
    rfl

theorem verdict_response (status : Status) :
    Poller.verdict (response status .statusRequest) = judgement status := by
  rw [Poller.verdict, if_neg (response_ne_nil status), decode_response, judgement]
  by_cases unreadable : Unreadable status
  · rw [if_pos unreadable, if_pos unreadable]
  · rw [if_neg unreadable, if_neg unreadable]

/-- A board that shows nothing, or what a frame can carry. -/
def Allowed (status : Status) (board : Board) : Prop :=
  board.latest = none ∨ board.latest = reported status

/-- After a rotation, a board shows what a frame can carry, whatever it showed before. -/
theorem Allowed.latest_shown
    {status : Status}
    {board : Board}
    (allowed : Allowed status board) :
    (Poller.Board.shown board (response status .statusRequest)).latest = reported status := by
  rw [Poller.Board.latest_shown, decoded?_response]
  cases carried : reported status with
  | some published => rfl
  | none =>
      obtain nothing | known := allowed
      · rw [nothing]
        rfl
      · rw [known, carried]
        rfl

/-! ## Calls one after the other -/

section Calls

variable (name : String) (timing : Timing) (longest : Option Nat) {status : Status}
  {board : Board}

/-- One call, over a device in memory from which nothing is left over. -/
theorem call_mock
    (now : Nat)
    (allowed : Allowed status board)
    (first : Call) :
    let made := Poller.call (Mock.link name) timing ⟨none, longest⟩ ⟨.new status, now, board⟩ first
    made.1.device = .new status ∧ Came status first made.2 ∧
      made.1.board.latest = if first = .poll then reported status else board.latest := by
  cases first with
  | poll =>
      have succeeds : Poller.Succeeds (Mock.link name) (fun _ => True)
          (fun outcome device after =>
            outcome = judgement status ∧ device = .new status ∧ after.latest = reported status)
          (Poller.rotation timing) (.new status) board := by
        apply Poller.succeeds_rotation_mock
        · exact fun _ _ => trivial
        · rw [answer_wire]
          exact ⟨verdict_response status, rfl, allowed.latest_shown⟩
      obtain ⟨outcome, ending, rfl, device, latest⟩ :=
        succeeds.play ⟨Mock.new status, now, board⟩
          (rfl : (⟨none, longest⟩ : Poller.Clock).deadline = none)
      exact ⟨device, ending, latest⟩
  | request command =>
      have succeeds : Poller.Succeeds (Mock.link name) (fun _ => True)
          (fun received device after =>
            received = .data (response status command) ∧ device = .new status ∧ after = board)
          (Poller.request timing command) (.new status) board := by
        apply Poller.succeeds_request_mock
        rw [answer_wire]
        exact ⟨ofBytes_response status command, rfl, rfl⟩
      obtain ⟨received, ending, rfl, device, after⟩ :=
        succeeds.play ⟨Mock.new status, now, board⟩
          (rfl : (⟨none, longest⟩ : Poller.Clock).deadline = none)
      exact ⟨device, ⟨rfl, ending⟩, congrArg Board.latest after⟩

theorem calls_mock
    (now : Nat)
    (allowed : Allowed status board)
    (asked : List Call) :
    let made := Poller.calls (Mock.link name) timing ⟨none, longest⟩ ⟨.new status, now, board⟩ asked
    made.1.device = .new status ∧ List.Forall₂ (Came status) asked made.2 ∧
      made.1.board.latest = if .poll ∈ asked then reported status else board.latest := by
  induction asked generalizing now board with
  | nil => exact ⟨rfl, .nil, rfl⟩
  | cons first later inductionHypothesis =>
      obtain ⟨device, came, latest⟩ := call_mock name timing longest now allowed first
      simp only [Poller.calls]
      generalize Poller.call (Mock.link name) timing ⟨none, longest⟩ ⟨.new status, now, board⟩
        first = made at device came latest ⊢
      obtain ⟨⟨left, time, after⟩, transcript⟩ := made
      cases device
      have stillAllowed : Allowed status after := by
        by_cases polled : first = .poll
        · rw [if_pos polled] at latest
          exact Or.inr latest
        · rw [if_neg polled] at latest
          rwa [Allowed, latest]
      obtain ⟨leftDevice, laterCame, laterLatest⟩ := inductionHypothesis time stillAllowed
      refine ⟨leftDevice, .cons came laterCame, laterLatest.trans ?_⟩
      by_cases polledLater : Call.poll ∈ later
      · rw [if_pos polledLater, if_pos (List.mem_cons_of_mem first polledLater)]
      · rw [if_neg polledLater]
        refine latest.trans ?_
        by_cases polled : first = .poll
        · rw [if_pos polled, if_pos (polled ▸ List.mem_cons_self)]
        · have never : Call.poll ∉ first :: later := by
            rw [List.mem_cons, not_or]
            exact ⟨Ne.symm polled, polledLater⟩
          rw [if_neg polled, if_neg never]

end Calls

/-! ## Small steps in any order -/

variable {name : String} {timing : Timing} {status : Status} {board : Board}

/-- Something holds of every entry of a history and of what the board shows when it is made. -/
def Throughout (claim : Board → Entry → Prop) (board : Board) : List Entry → Prop
  | [] => True
  | entry :: later => claim board entry ∧ Throughout claim (shown board entry) later

section Throughout

variable {claim : Board → Entry → Prop}

theorem throughout_append
    (board : Board)
    (earlier later : List Entry) :
    Throughout claim board (earlier ++ later) ↔
      Throughout claim board earlier ∧ Throughout claim (earlier.foldl shown board) later := by
  induction earlier generalizing board with
  | nil => simp [Throughout]
  | cons entry earlier inductionHypothesis =>
      simp only [List.cons_append, Throughout, List.foldl_cons, inductionHypothesis, and_assoc]

/-- What holds of an entry and of the publications before it. -/
theorem Throughout.entry
    {earlier later : List Entry}
    {entry : Entry}
    (throughout : Throughout claim .empty (earlier ++ entry :: later)) :
    claim ((statuses earlier).foldl Board.publish .empty) entry := by
  rw [← foldl_shown]
  exact ((throughout_append _ _ _).mp throughout).2.1

/-- What holds of every entry whatever the board shows holds throughout. -/
theorem throughout_of_forall
    {entries : List Entry}
    (always : ∀ entry ∈ entries, ∀ board, claim board entry)
    (board : Board) :
    Throughout claim board entries := by
  induction entries generalizing board with
  | nil => trivial
  | cons entry later inductionHypothesis =>
      rw [List.forall_mem_cons] at always
      exact ⟨always.1 board, inductionHypothesis always.2 _⟩

end Throughout

/-- What the poller may publish. -/
def Permitted (status published : Status) : Prop :=
  reported status = some published

/-- What a call of the poller has to come to. -/
def Wanted (status : Status) (ended : Outcome ⊕ Response) (device : Mock) (board : Board) : Prop :=
  device = .new status ∧
    ∃ call, ended = result status call ∧ (call = .poll → board.latest = reported status)

/-- What an entry of the history may be. -/
def Expected (status : Status) (board : Board) : Entry → Prop
  | .published published => Permitted status published
  | .called ending => ∃ call, ending = .finished (result status call) ∧
      (call = .poll → board.latest = reported status)
  | _ => True

theorem Allowed.foldl_publish
    (allowed : Allowed status board)
    {publications : List Status}
    (permitted : ∀ published ∈ publications, Permitted status published) :
    Allowed status (publications.foldl Board.publish board) := by
  induction publications generalizing board with
  | nil => exact allowed
  | cons published later inductionHypothesis =>
      rw [List.forall_mem_cons] at permitted
      exact inductionHypothesis (Or.inr permitted.1.symm) permitted.2

/-- What a call has to do succeeds from what the call before it left. -/
theorem succeeds_asked
    (allowed : Allowed status board)
    (call : Call) :
    Poller.Succeeds (Mock.link name) (Permitted status) (Wanted status) (asked timing call)
      (.new status) board := by
  cases call with
  | poll =>
      rw [asked, Poller.succeeds_bind]
      apply Poller.succeeds_rotation_mock
      · rw [answer_wire, decoded?_response]
        exact fun published equal => equal
      · rw [answer_wire, verdict_response, Poller.succeeds_done]
        exact ⟨rfl, .poll, rfl, fun _ => allowed.latest_shown⟩
  | request command =>
      rw [asked, Poller.succeeds_bind]
      apply Poller.succeeds_request_mock
      rw [answer_wire, ofBytes_response, Poller.succeeds_done]
      exact ⟨rfl, .request command, rfl, nofun⟩

theorem permitted_of_mem_statuses
    {history : List Entry}
    (expected : Throughout (Expected status) board history)
    {published : Status}
    (present : published ∈ statuses history) :
    Permitted status published := by
  induction history generalizing board with
  | nil => cases present
  | cons entry later inductionHypothesis =>
      cases entry with
      | published first =>
          obtain rfl | present := List.mem_cons.mp present
          · exact expected.1
          · exact inductionHypothesis expected.2 present
      | operated operation => exact inductionHypothesis expected.2 present
      | called ending => exact inductionHypothesis expected.2 present
      | answered answer => exact inductionHypothesis expected.2 present

/-- What the poller does next is expected. -/
theorem expected_noted
    {advance : Poller.Advance Mock (Outcome ⊕ Response)}
    (permitted : ∀ published ∈ advance.published, Permitted status published)
    (after : advance.station.board = advance.published.foldl Board.publish board)
    (ended : ∀ ending, advance.remainder = .ended ending →
      Expected status advance.station.board (.called ending)) :
    Throughout (Expected status) board (noted advance) := by
  have operated : Throughout (Expected status) board (advance.operations.map .operated) := by
    apply throughout_of_forall
    intro entry present board
    obtain ⟨operation, _, rfl⟩ := List.mem_map.mp present
    trivial
  have published (before : Board) :
      Throughout (Expected status) before (advance.published.map .published) := by
    apply throughout_of_forall _ before
    intro entry present board
    obtain ⟨published, published_, rfl⟩ := List.mem_map.mp present
    exact permitted published published_
  rw [noted, throughout_append, throughout_append]
  refine ⟨⟨operated, published _⟩, ?_⟩
  have told : (advance.operations.map Entry.operated ++
      advance.published.map Entry.published).foldl shown board = advance.station.board := by
    rw [foldl_shown, after]
    simp [statuses, List.filterMap_map]
  rw [told]
  cases remainder : advance.remainder with
  | more next => trivial
  | ended ending => exact ⟨ended ending remainder, trivial⟩

/-- What every step keeps as long as nothing is published by hand: the poller is on its way to what
is wanted, and the history holds what is expected. -/
structure Reports (name : String) (status : Status) (bridge : Bridge Mock) : Prop where
  /-- Between calls nothing is left over on the device. -/
  idle : bridge.pending = none → bridge.device = .new status
  /-- A call that has been begun succeeds. -/
  busy : ∀ dialogue, bridge.pending = some dialogue →
    Poller.Succeeds (Mock.link name) (Permitted status) (Wanted status) dialogue bridge.device
      bridge.store.board
  /-- The history holds what is expected. -/
  expected : Throughout (Expected status) .empty bridge.history

theorem allowed_of_expected
    {history : List Entry}
    (expected : Throughout (Expected status) .empty history) :
    Allowed status ((statuses history).foldl Board.publish .empty) :=
  Allowed.foldl_publish (Or.inl rfl) fun _ => permitted_of_mem_statuses expected

variable {bridge : Bridge Mock}

theorem Reports.allowed
    (reports : bridge.Reports name status)
    (linked : bridge.Linked) :
    Allowed status bridge.store.board := by
  rw [linked.board_eq, foldl_shown]
  exact allowed_of_expected reports.expected

theorem reports_start
    (name : String)
    (status : Status)
    (now : Nat) :
    (start (.new status) now).Reports name status :=
  ⟨fun _ => rfl, nofun, trivial⟩

theorem Reports.advance
    {clock : Poller.Clock}
    (reports : bridge.Reports name status)
    (linked : bridge.Linked)
    (unlimited : clock.deadline = none)
    {dialogue : Dialogue (Outcome ⊕ Response)}
    (pending : bridge.pending = some dialogue) :
    (bridge.advance (Mock.link name) clock dialogue).Reports name status := by
  have after := Poller.board_advance (Mock.link name) clock
    ⟨bridge.device, bridge.now, bridge.store.board⟩ dialogue
  obtain ⟨permitted, rest⟩ := Poller.Succeeds.advance
    ⟨bridge.device, bridge.now, bridge.store.board⟩ (reports.busy dialogue pending) unlimited
  unfold Bridge.advance
  generalize Poller.advance (Mock.link name) clock
    ⟨bridge.device, bridge.now, bridge.store.board⟩ dialogue = advance at after permitted rest ⊢
  refine ⟨?_, ?_, ?_⟩
  · intro idle
    cases remainder : advance.remainder with
    | more next => simp [left, remainder] at idle
    | ended ending =>
        simp only [remainder] at rest
        obtain ⟨_, _, device, _⟩ := rest
        exact device
  · intro next busy
    cases remainder : advance.remainder with
    | more rest_ =>
        simp only [left, remainder, Option.some.injEq] at busy rest
        rwa [← busy]
    | ended ending => simp [left, remainder] at busy
  · refine (throughout_append _ _ _).mpr ⟨reports.expected, ?_⟩
    rw [← linked.board_eq]
    apply expected_noted permitted after
    intro ending remainder
    simp only [remainder] at rest
    obtain ⟨ended, rfl, _, call, rfl, latest⟩ := rest
    exact ⟨call, rfl, latest⟩

/-- A step that leaves the poller and the board alone, and adds only answers to the history. -/
theorem Reports.pass
    {after : Bridge Mock}
    (reports : bridge.Reports name status)
    (device : after.device = bridge.device)
    (pending : after.pending = bridge.pending)
    (sameBoard : after.store.board = bridge.store.board)
    (answers : List Answer)
    (history : after.history = bridge.history ++ answers.map .answered) :
    after.Reports name status := by
  refine ⟨?_, ?_, ?_⟩
  · rw [device, pending]
    exact reports.idle
  · rw [device, pending, sameBoard]
    exact reports.busy
  · rw [history, throughout_append]
    refine ⟨reports.expected, throughout_of_forall ?_ _⟩
    intro entry present board
    obtain ⟨answer, _, rfl⟩ := List.mem_map.mp present
    trivial

theorem Reports.step
    (reports : bridge.Reports name status)
    (linked : bridge.Linked)
    (longest : Option Nat)
    {act : Act}
    (byPoller : ∀ published, act ≠ .publish published) :
    (bridge.step (Mock.link name) timing ⟨none, longest⟩ act).Reports name status := by
  cases act with
  | ask call =>
      simp only [Bridge.step]
      split
      · exact reports
      · rename_i idle
        refine ⟨fun nothing => absurd nothing (Option.some_ne_none _), ?_, reports.expected⟩
        rintro dialogue ⟨⟩
        rw [reports.idle idle]
        exact succeeds_asked (reports.allowed linked) call
  | advance =>
      simp only [Bridge.step]
      split
      · rename_i dialogue pending
        exact reports.advance linked rfl pending
      · exact reports
  | publish published => exact absurd rfl (byPoller published)
  | connect key capacity =>
      simp only [Bridge.step]
      split
      · rename_i reader store free cloned
        exact reports.pass rfl rfl (Store.clone_spec cloned).1 [] (List.append_nil _).symm
      · exact reports
  | client key move =>
      simp only [Bridge.step]
      split
      · exact reports.pass rfl rfl rfl [] (List.append_nil _).symm
      · exact reports
  | serve key most =>
      simp only [Bridge.step]
      split
      · rename_i seat found
        split
        · rename_i snapshot seen
          exact reports.pass rfl rfl (board_release _ _ _) _ rfl
        · exact reports
      · exact reports

theorem reports_run
    (name : String)
    (timing : Timing)
    (longest : Option Nat)
    (status : Status)
    (now : Nat)
    {acts : List Act}
    (byPoller : ∀ published, .publish published ∉ acts) :
    ((start (.new status) now).run (Mock.link name) timing ⟨none, longest⟩ acts).Reports name
      status := by
  induction acts using List.reverseRecOn with
  | nil => exact reports_start name status now
  | append_singleton acts act inductionHypothesis =>
      simp only [List.mem_append, List.mem_singleton, not_or, forall_and] at byPoller
      rw [run, List.foldl_append]
      exact (inductionHypothesis byPoller.1).step
        (linked_run (Mock.link name) timing ⟨none, longest⟩ (.new status) now acts) longest
        fun published equal => byPoller.2 published equal.symm

/-- What the publications so far show is nothing or what a frame carries, and the latter as soon as
a rotation has come to its end. -/
theorem getLast?_statuses_of_expected
    {history : List Entry}
    (expected : Throughout (Expected status) .empty history) :
    ((statuses history).getLast? = none ∨ (statuses history).getLast? = reported status) ∧
      ((∃ outcome, .called (.finished (.inl outcome)) ∈ history) →
        (statuses history).getLast? = reported status) := by
  have last : ∀ published, (statuses history).getLast? = some published →
      reported status = some published := fun published equal =>
    permitted_of_mem_statuses expected (List.mem_of_getLast? equal)
  refine ⟨?_, ?_⟩
  · cases latest : (statuses history).getLast? with
    | none => exact Or.inl rfl
    | some published => exact Or.inr (last published latest).symm
  · rintro ⟨outcome, present⟩
    obtain ⟨earlier, later, rfl⟩ := List.append_of_mem present
    obtain ⟨call, ending, latest⟩ := expected.entry
    have polled : call = .poll := by
      cases call with
      | poll => rfl
      | request command => cases ending
    rw [Board.foldl_publish] at latest
    cases whole : (statuses (earlier ++ .called (.finished (.inl outcome)) :: later)).getLast? with
    | some published => exact (last published whole).symm
    | none =>
        rw [List.getLast?_eq_none_iff, statuses_append, List.append_eq_nil_iff] at whole
        rw [whole.1] at latest
        exact latest polled

/-! ## Everything together -/

/-- A device in memory that reports a status is polled.  Calls made one after the other, in any order
and number, come to what is known beforehand and leave nothing over on the device, and every reader
sees what a frame carries of the status, from the first rotation on.  In the same way, however the
small steps of calls and of clients come one after the other, every call that ends comes to what is
known beforehand, and every reply is worked out from nothing or from what a frame carries, and after
the first rotation that ended only from the latter. -/
theorem device_in_memory_is_served
    (name : String)
    (timing : Timing)
    (longest : Option Nat)
    (status : Status)
    (now : Nat) :
    (∀ asked : List Call,
      let made := Poller.calls (Mock.link name) timing ⟨none, longest⟩
        ⟨.new status, now, .empty⟩ asked
      made.1.device = .new status ∧ List.Forall₂ (Came status) asked made.2 ∧
        ∀ (store : Store) (reader : Nat),
          store.board = made.1.board → (store.caughtUp? reader).isSome →
          store.get reader = .ok (if .poll ∈ asked then reported status else none)) ∧
    ∀ acts : List Act, (∀ published, .publish published ∉ acts) →
      let bridge := (start (.new status) now).run (Mock.link name) timing ⟨none, longest⟩ acts
      (∀ ending, .called ending ∈ bridge.history →
        ∃ call, ending = .finished (result status call)) ∧
      ∀ earlier answer later, bridge.history = earlier ++ .answered answer :: later →
        ∃ snapshot, answer.reply = Query.reply answer.request snapshot ∧
          (snapshot = none ∨ snapshot = reported status) ∧
          ((∃ outcome, .called (.finished (.inl outcome)) ∈ earlier) →
            snapshot = reported status) := by
  refine ⟨fun asked => ?_, fun acts byPoller => ?_⟩
  · obtain ⟨device, came, latest⟩ := calls_mock name timing longest now
      (Or.inl rfl : Allowed status .empty) asked
    refine ⟨device, came, fun store reader shared present => ?_⟩
    rw [Store.get_of_present present, shared, latest]
    rfl
  · have reports := reports_run name timing longest status now byPoller
    have linked := linked_run (Mock.link name) timing ⟨none, longest⟩ (.new status) now acts
    refine ⟨fun ending present => ?_, fun earlier answer later split_ => ?_⟩
    · obtain ⟨earlier, later, split_⟩ := List.append_of_mem present
      have expected := reports.expected
      rw [split_] at expected
      obtain ⟨call, known, _⟩ := expected.entry
      exact ⟨call, known⟩
    · have tells := linked.tells
      have expected := reports.expected
      rw [split_] at tells expected
      obtain ⟨allowed, rotated⟩ :=
        getLast?_statuses_of_expected ((throughout_append _ _ _).mp expected).1
      exact ⟨_, tells.answer.2, allowed, rotated⟩

/-- A relay in a state of two digits is seen with the last one, by a reader after single requests
and a rotation, and by a client who asks after a rotation. -/
theorem device_in_memory_is_served_after_a_rotation :
    let status : Status := { Status.example with relay := 27 }
    let asked : List Call := [.request .auxiliary1576, .poll, .request .statusRequest]
    let made := Poller.calls (Mock.link "mock") .standard ⟨none, some 500⟩
      ⟨.new status, 0, .empty⟩ asked
    let store : Store := { Store.new with board := made.1.board }
    let acts : List Act := .connect 0 64 :: .ask .poll :: List.replicate 17 .advance ++
      [.client 0 (.offer (Text.utf8 "get_relay\n")), .serve 0 64, .serve 0 64]
    let bridge := (start (.new status) 0).run (Mock.link "mock") .standard ⟨none, some 500⟩ acts
    (store.caughtUp? 0).isSome ∧ store.get 0 = .ok (some { status with relay := 7 }) ∧
      bridge.history.getLast? = some (.answered ⟨0, "get_relay", "7", 1⟩) ∧
      "7" = Query.reply "get_relay" (some { status with relay := 7 }) := by
  intro status asked made store acts bridge
  have shown : reported status = some { status with relay := 7 } := by decide +kernel
  obtain ⟨calls, steps⟩ := device_in_memory_is_served "mock" .standard (some 500) status 0
  refine ⟨rfl, ?_, ?_⟩
  · rw [← shown]
    exact (calls asked).2.2 store 0 rfl rfl
  · have byPoller : ∀ published, .publish published ∉ acts := by
      simp [acts]
    have last : bridge.history.getLast? = some (.answered ⟨0, "get_relay", "7", 1⟩) := by
      have answer : (bridge.history.getLast?.bind fun entry => (given [entry]).head?) =
          some ⟨0, "get_relay", "7", 1⟩ := by
        decide +kernel
      obtain ⟨entry, final, equal⟩ := Option.bind_eq_some_iff.mp answer
      rw [final]
      cases entry <;> cases equal
      rfl
    have rotated : ∃ outcome, .called (.finished (.inl outcome)) ∈ bridge.history.dropLast := by
      have ended : endings bridge.history.dropLast = [.finished (.inl .published)] := by
        decide +kernel
      exact ⟨.published, mem_endings_iff.mp (ended ▸ List.mem_singleton_self _)⟩
    obtain ⟨snapshot, reply, _, final⟩ := (steps acts byPoller).2 bridge.history.dropLast _ []
      (List.dropLast_append_getLast? _ last).symm
    rw [final rotated, shown] at reply
    exact ⟨last, reply⟩

end Bridge
end SerialShare
