import SerialShare.Proofs.Connection.Channel
import SerialShare.Proofs.Query.Reply

/-!
# Conversations come to rest

A conversation is given a number of rounds, in each of which the handler makes one step.
`stepsLeft` counts what there still is to do: a byte on its way to the handler is received, may be
the last of a line that is looked for and taken, and this line has a reply whose bytes may have to
be sent one by one.  Every step makes it less, so that the rounds of a conversation are enough:
when it is over, neither side can move.
-/

namespace SerialShare

open Lines (defaultLimit)

/-! ## The handler -/

namespace Handler

theorem length_replyLine_le
    (request : String)
    {snapshot : Snapshot}
    (decoded : Query.Decoded snapshot) :
    (replyLine request snapshot).length ≤ 1025 := by
  have short : (Text.utf8 (Query.reply request snapshot)).length ≤ 1024 :=
    (Query.clean_reply request decoded).short
  rw [replyLine, List.length_append, List.length_singleton]
  omega

/-- What is left of the search for lines besides the lines themselves.  It becomes less when a
search finds nothing, and when the handler learns of the end. -/
def searchLeft (handler : Handler) : Nat :=
  match handler.looking, handler.inputEnded with
  | true, true => 0
  | true, false => 2
  | false, _ => 1

/-- No fewer steps than a handler can still make on what it holds. -/
def stepsLeft (handler : Handler) : Nat :=
  match handler.ending with
  | some _ => 0
  | none => handler.outgoing.length + 1026 * handler.buffer.length + handler.searchLeft + 1

theorem stepsLeft_of_ended
    {handler : Handler}
    {result : Except IoFault Unit}
    (ended : handler.ending = some result) :
    handler.stepsLeft = 0 := by
  simp only [stepsLeft, ended]

theorem stepsLeft_of_running
    {handler : Handler}
    (running : handler.ending = none) :
    handler.stepsLeft =
      handler.outgoing.length + 1026 * handler.buffer.length + handler.searchLeft + 1 := by
  simp only [stepsLeft, running]

theorem searchLeft_le (handler : Handler) : handler.searchLeft ≤ 2 := by
  unfold searchLeft
  split <;> decide

/-- Looking leaves a handler ready, and takes a step of those that are left. -/
theorem Ready.look
    {handler : Handler}
    (ready : handler.Ready)
    (running : handler.ending = none)
    (clear : handler.outgoing = [])
    (looks : handler.looking = true)
    {snapshot : Snapshot}
    (decoded : Query.Decoded snapshot) :
    (handler.look snapshot).1.Ready ∧ (handler.look snapshot).1.stepsLeft < handler.stepsLeft := by
  have faithful := ready.faithful
  have kept : ∀ looked : Handler, looked.splitter = handler.found.splitter →
      looked.buffer = handler.found.buffer → looked.Ready := by
    intro looked splitter buffer
    refine ⟨?_, ?_⟩
    · rw [splitter, faithful.limit_eq]
    · rw [splitter, buffer]
      exact faithful.looked
  rw [stepsLeft_of_running running, clear, List.length_nil]
  cases result : handler.found.result with
  | overflow => exact absurd result faithful.answered
  | refused fault =>
      rw [look_of_refusal result]
      refine ⟨kept _ rfl rfl, ?_⟩
      rw [stepsLeft_of_ended rfl]
      exact Nat.succ_pos _
  | line request =>
      have shorter := (faithful.line request result).1
      have short := length_replyLine_le request decoded
      rw [look_of_line result]
      refine ⟨kept _ rfl rfl, ?_⟩
      simp only [stepsLeft, running, searchLeft]
      omega
  | nothing =>
      have same := (faithful.nothing result).1
      rw [look_of_nothing result]
      refine ⟨kept _ rfl rfl, ?_⟩
      cases ended : handler.inputEnded with
      | true =>
          rw [stepsLeft_of_ended rfl]
          exact Nat.succ_pos _
      | false =>
          simp [stepsLeft, running, searchLeft, clear, same, looks, ended]

end Handler

/-! ## The connection -/

namespace Connection

/-- No more is under way than fits, and the handler is ready. -/
structure Fitting (connection : Connection) : Prop where
  /-- What is under way to the handler fits. -/
  requests : connection.requests.length ≤ connection.capacity
  /-- What is under way to the client fits. -/
  replies : connection.replies.length ≤ connection.capacity
  /-- The handler is ready. -/
  ready : connection.handler.Ready

theorem fitting_new (capacity : Nat) : (new capacity).Fitting :=
  ⟨Nat.zero_le _, Nat.zero_le _, rfl, Lines.Splitter.looked_of_cursor_eq_zero rfl []⟩

/-- No fewer steps than the handler can still make, when the client has some bytes to send. -/
def stepsLeft (connection : Connection) (unsent : Bytes) : Nat :=
  connection.handler.stepsLeft + 1028 * (connection.requests.length + unsent.length)

/-- A step of a handler that does not have to wait is one of those that are left. -/
theorem Fitting.serve
    {connection : Connection}
    (fitting : connection.Fitting)
    (busy : connection.isIdle = false)
    {snapshot : Snapshot}
    (decoded : Query.Decoded snapshot)
    (unsent : Bytes) :
    (connection.serve connection.capacity snapshot).1.Fitting ∧
      (connection.serve connection.capacity snapshot).1.stepsLeft unsent <
        connection.stepsLeft unsent := by
  obtain ⟨requests, replies, ready⟩ := fitting
  have course := connection.serving connection.capacity snapshot
  generalize connection.serve connection.capacity snapshot = result at course ⊢
  cases course with
  | finished ended => simp [isIdle, Handler.phase, ended] at busy
  | lost running pending gone =>
      refine ⟨⟨requests, replies, ready.limit_eq, ready.looked⟩, ?_⟩
      have after : connection.handler.refused.stepsLeft = 0 := Handler.stepsLeft_of_ended rfl
      simp only [stepsLeft, Handler.stepsLeft_of_running running, after]
      omega
  | replied running pending present count fits =>
      have some := List.length_pos_iff.mpr pending
      have room : connection.replies.length < connection.capacity := by
        by_contra full
        simp [isIdle, Handler.phase, running, pending, present, Nat.not_lt.mp full] at busy
      refine ⟨⟨requests, ?_, ready.limit_eq, ready.looked⟩, ?_⟩
      · simp only [List.length_append, List.length_take]
        omega
      · have after : (connection.handler.sent count).ending = none := running
        rw [stepsLeft, stepsLeft, Handler.stepsLeft_of_running running,
          Handler.stepsLeft_of_running after]
        simp only [Handler.sent, Handler.searchLeft, List.length_drop]
        omega
  | looked running clear looks =>
      obtain ⟨stillReady, less⟩ := ready.look running clear looks decoded
      refine ⟨⟨requests, replies, stillReady⟩, ?_⟩
      simp only [stepsLeft]
      omega
  | received running clear idle pending =>
      have some := List.length_pos_iff.mpr pending
      refine ⟨⟨?_, replies, ready.limit_eq, ready.looked.append _⟩, ?_⟩
      · rw [List.length_drop]
        omega
      · have after : (connection.handler.receive
            (connection.requests.take connection.capacity)).ending = none := running
        have one : connection.handler.searchLeft = 1 := by simp [Handler.searchLeft, idle]
        have few := (connection.handler.receive
          (connection.requests.take connection.capacity)).searchLeft_le
        rw [stepsLeft, stepsLeft, Handler.stepsLeft_of_running running,
          Handler.stepsLeft_of_running after]
        simp only [Handler.receive, List.length_append, List.length_take, List.length_drop, one]
          at few ⊢
        omega
  | learned running clear idle drained stopped =>
      refine ⟨⟨requests, replies, ready.limit_eq, ready.looked⟩, ?_⟩
      have after : connection.handler.finishInput.ending = none := running
      rw [stepsLeft, stepsLeft, Handler.stepsLeft_of_running running,
        Handler.stepsLeft_of_running after]
      simp [Handler.finishInput, Handler.searchLeft, idle]
  | waited running clear idle drained unfinished present =>
      simp [isIdle, Handler.phase, running, clear, idle, drained, unfinished, present] at busy

/-- Receiving leaves nothing under way to the client. -/
theorem Fitting.collect
    {connection : Connection}
    (fitting : connection.Fitting) :
    (connection.collect connection.capacity).2.Fitting ∧
      (connection.collect connection.capacity).2.replies = [] := by
  have drained : connection.replies.drop connection.capacity = [] :=
    List.drop_eq_nil_of_le fitting.replies
  refine ⟨⟨fitting.requests, ?_, fitting.ready⟩, drained⟩
  rw [Connection.collect, drained]
  exact Nat.zero_le _

/-- Sending makes no steps more, and leaves only bytes that the connection does not take now. -/
theorem Fitting.offer
    {connection : Connection}
    (fitting : connection.Fitting)
    (unsent : Bytes) :
    (connection.offer unsent).2.Fitting ∧
      (connection.offer unsent).2.replies = connection.replies ∧
      (connection.offer unsent).2.stepsLeft (unsent.drop (connection.offer unsent).1) =
        connection.stepsLeft unsent ∧
      ((connection.offer unsent).2.offer (unsent.drop (connection.offer unsent).1)).1 = 0 := by
  obtain ⟨requests, replies, ready⟩ := fitting
  by_cases accepts : connection.open?
  · simp only [Connection.offer, if_pos accepts]
    generalize counted :
      min unsent.length (connection.capacity - connection.requests.length) = count
    refine ⟨⟨?_, replies, ready⟩, trivial, ?_, ?_⟩
    · simp only [List.length_append, List.length_take]
      omega
    · simp only [stepsLeft, List.length_append, List.length_take, List.length_drop]
      omega
    · split
      · rw [List.length_append, List.length_take, List.length_drop]
        omega
      · rfl
  · simp only [Connection.offer, if_neg accepts]
    exact ⟨⟨requests, replies, ready⟩, trivial, rfl, trivial⟩

/-! ## Conversations -/

/-- Neither side can move: the handler would have to wait, the client has received everything, and
nothing of what it has still to send would be taken. -/
structure Rests (connection : Connection) (unsent : Bytes) : Prop where
  /-- The handler would have to wait. -/
  idle : connection.isIdle = true
  /-- The client has received everything. -/
  delivered : connection.replies = []
  /-- Nothing of what the client has still to send would be taken. -/
  full : (connection.offer unsent).1 = 0

/-- A conversation of more rounds than there are steps left comes to rest. -/
theorem Fitting.converse
    {connection : Connection}
    (fitting : connection.Fitting)
    {snapshot : Snapshot}
    (decoded : Query.Decoded snapshot)
    {rounds : Nat}
    {unsent : Bytes}
    (enough : connection.stepsLeft unsent < rounds) :
    (Connection.converse snapshot rounds connection unsent).connection.Fitting ∧
      ∃ left, left <:+ unsent ∧
        (Connection.converse snapshot rounds connection unsent).connection.Rests left := by
  induction rounds generalizing connection unsent with
  | zero => cases enough
  | succ rounds inductionHypothesis =>
      obtain ⟨collected, delivered⟩ := fitting.collect
      obtain ⟨offered, kept, same, full⟩ := collected.offer unsent
      have suffix : unsent.drop ((connection.collect connection.capacity).2.offer unsent).1 <:+
          unsent := List.drop_suffix _ _
      simp only [Connection.converse]
      split
      · rename_i idle
        exact ⟨offered, _, suffix, idle, kept.trans delivered, full⟩
      · rename_i busy
        obtain ⟨served, less⟩ := offered.serve (Bool.eq_false_iff.mpr busy) decoded
          (unsent.drop ((connection.collect connection.capacity).2.offer unsent).1)
        have fewer : (connection.collect connection.capacity).2.stepsLeft unsent =
            connection.stepsLeft unsent := rfl
        rw [same, fewer] at less
        obtain ⟨again, left, rest, rests⟩ :=
          inductionHypothesis served (Nat.lt_of_lt_of_le less (Nat.lt_succ_iff.mp enough))
        exact ⟨again, left, rest.trans suffix, rests⟩

/-- The rounds of a conversation are more than the steps there are. -/
theorem stepsLeft_lt_roundsFor
    (connection : Connection)
    (unsent : Bytes) :
    connection.stepsLeft unsent < connection.roundsFor unsent := by
  have few := connection.handler.searchLeft_le
  have factor : defaultLimit.toNat + 4 = 1028 := rfl
  unfold stepsLeft roundsFor
  rw [factor]
  cases ending : connection.handler.ending with
  | some result =>
      rw [Handler.stepsLeft_of_ended ending]
      omega
  | none =>
      rw [Handler.stepsLeft_of_running ending]
      omega

theorem Fitting.send
    {connection : Connection}
    (fitting : connection.Fitting)
    {snapshot : Snapshot}
    (decoded : Query.Decoded snapshot)
    (bytes : Bytes) :
    (connection.send snapshot bytes).connection.Fitting ∧
      ∃ left, left <:+ bytes ∧ (connection.send snapshot bytes).connection.Rests left :=
  fitting.converse decoded (connection.stepsLeft_lt_roundsFor bytes)

/-- A connection after conversations, each with what was known of the device then. -/
def conversed (connection : Connection) (conversations : List (Snapshot × Bytes)) : Connection :=
  conversations.foldl (fun connection entry => (connection.send entry.1 entry.2).connection)
    connection

theorem Fitting.conversed
    {connection : Connection}
    (fitting : connection.Fitting)
    {conversations : List (Snapshot × Bytes)}
    (decoded : ∀ entry ∈ conversations, Query.Decoded entry.1) :
    (connection.conversed conversations).Fitting := by
  induction conversations generalizing connection with
  | nil => exact fitting
  | cons entry later inductionHypothesis =>
      rw [List.forall_mem_cons] at decoded
      exact inductionHypothesis (fitting.send decoded.1 entry.2).1 decoded.2

/-- When a conversation is over, neither side can move, whatever conversations there were before on
the same connection. -/
theorem send_rests
    (capacity : Nat)
    {earlier : List (Snapshot × Bytes)}
    (decodedBefore : ∀ entry ∈ earlier, Query.Decoded entry.1)
    {snapshot : Snapshot}
    (decoded : Query.Decoded snapshot)
    (bytes : Bytes) :
    ∃ left, left <:+ bytes ∧
      (((new capacity).conversed earlier).send snapshot bytes).connection.Rests left :=
  (((fitting_new capacity).conversed decodedBefore).send decoded bytes).2

end Connection
end SerialShare
