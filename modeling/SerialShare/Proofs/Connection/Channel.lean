import SerialShare.Connection.Channel
import SerialShare.Proofs.Connection.Handler

/-!
# A connection carries lines and replies

`Serving` lists the outcomes of one step of a handler, and says of each when it happens.  A
connection `Carries` what a client has sent and received, and the requests answered on it, when
nothing got lost on the way: the bytes sent are those that have arrived at the handler and those
under way to it, and the replies to the requests are what the client has received, what is under way
to it, and what the handler still has to send.
-/

namespace SerialShare
namespace Connection

open Lines (reading defaultLimit Extends)

/-! ## One step of the handler -/

/-- What one step of the handler comes to. -/
inductive Serving (connection : Connection) (most : Nat) (snapshot : Snapshot) :
    Connection × List Log.Event → Prop where
  /-- The handler is no longer at work. -/
  | finished (ended : connection.handler.ending.isSome) :
      Serving connection most snapshot (connection, [])
  /-- The handler finds that the client has gone away. -/
  | lost (running : connection.handler.ending = none)
      (pending : connection.handler.outgoing ≠ [])
      (gone : connection.clientGone = true) :
      Serving connection most snapshot
        ({ connection with handler := connection.handler.refused }, [])
  /-- The handler sends as much of a reply as fits. -/
  | replied (running : connection.handler.ending = none)
      (pending : connection.handler.outgoing ≠ [])
      (present : connection.clientGone = false)
      (count : Nat)
      (fits : count = min connection.handler.outgoing.length
        (connection.capacity - connection.replies.length)) :
      Serving connection most snapshot
        ({ connection with
            replies := connection.replies ++ connection.handler.outgoing.take count
            handler := connection.handler.sent count }, [])
  /-- The handler looks for a line. -/
  | looked (running : connection.handler.ending = none)
      (clear : connection.handler.outgoing = [])
      (looks : connection.handler.looking = true) :
      Serving connection most snapshot
        ({ connection with handler := (connection.handler.look snapshot).1 },
          (connection.handler.look snapshot).2)
  /-- The handler receives. -/
  | received (running : connection.handler.ending = none)
      (clear : connection.handler.outgoing = [])
      (idle : connection.handler.looking = false)
      (pending : connection.requests ≠ []) :
      Serving connection most snapshot
        ({ connection with
            requests := connection.requests.drop most
            handler := connection.handler.receive (connection.requests.take most) }, [])
  /-- The handler learns that no more bytes will come. -/
  | learned (running : connection.handler.ending = none)
      (clear : connection.handler.outgoing = [])
      (idle : connection.handler.looking = false)
      (drained : connection.requests = [])
      (stopped : connection.clientDone = true ∨ connection.clientGone = true) :
      Serving connection most snapshot
        ({ connection with handler := connection.handler.finishInput }, [])
  /-- The handler has to wait for more bytes. -/
  | waited (running : connection.handler.ending = none)
      (clear : connection.handler.outgoing = [])
      (idle : connection.handler.looking = false)
      (drained : connection.requests = [])
      (unfinished : connection.clientDone = false)
      (present : connection.clientGone = false) :
      Serving connection most snapshot (connection, [])

/-- Every step of the handler has one of the outcomes. -/
theorem serving
    (connection : Connection)
    (most : Nat)
    (snapshot : Snapshot) :
    Serving connection most snapshot (connection.serve most snapshot) := by
  obtain ⟨capacity, requests, replies, done, gone, handler⟩ := connection
  obtain ⟨splitter, buffer, looking, inputEnded, outgoing, ending⟩ := handler
  cases ending with
  | some result => exact .finished rfl
  | none =>
      cases outgoing with
      | cons byte bytes =>
          cases gone with
          | true => exact .lost rfl (List.cons_ne_nil byte bytes) rfl
          | false => exact .replied rfl (List.cons_ne_nil byte bytes) rfl _ rfl
      | nil =>
          cases looking with
          | true => exact .looked rfl rfl rfl
          | false =>
              cases requests with
              | cons byte bytes => exact .received rfl rfl rfl (List.cons_ne_nil byte bytes)
              | nil =>
                  cases done with
                  | true => exact .learned rfl rfl rfl rfl (Or.inl rfl)
                  | false =>
                      cases gone with
                      | true => exact .learned rfl rfl rfl rfl (Or.inr rfl)
                      | false => exact .waited rfl rfl rfl rfl rfl rfl

/-- What is recorded in a step is that the handler replies from the snapshot. -/
theorem events_serve
    (connection : Connection)
    (most : Nat)
    (snapshot : Snapshot) :
    (connection.serve most snapshot).2 =
      (Handler.taken (connection.serve most snapshot).2).map fun request =>
        .replying request (Query.reply request snapshot) := by
  have course := connection.serving most snapshot
  generalize connection.serve most snapshot = result at course ⊢
  cases course with
  | looked running clear looks => exact connection.handler.events_look snapshot
  | finished ended => rfl
  | lost running pending gone => rfl
  | replied running pending present count fits => rfl
  | received running clear idle pending => rfl
  | learned running clear idle drained stopped => rfl
  | waited running clear idle drained unfinished present => rfl

/-- A step of the handler leaves what the transport and the client decide. -/
theorem serve_frame
    (connection : Connection)
    (most : Nat)
    (snapshot : Snapshot) :
    (connection.serve most snapshot).1.capacity = connection.capacity ∧
      (connection.serve most snapshot).1.clientDone = connection.clientDone ∧
      (connection.serve most snapshot).1.clientGone = connection.clientGone := by
  have course := connection.serving most snapshot
  generalize connection.serve most snapshot = result at course ⊢
  cases course <;> exact ⟨rfl, rfl, rfl⟩

/-- A handler that has ended does not start again. -/
theorem running_of_serve
    {connection : Connection}
    {most : Nat}
    {snapshot : Snapshot}
    (running : (connection.serve most snapshot).1.handler.ending = none) :
    connection.handler.ending = none := by
  have course := connection.serving most snapshot
  generalize connection.serve most snapshot = result at course running
  cases course <;> assumption

/-- A handler that has ended does nothing any more. -/
theorem serve_of_ended
    {connection : Connection}
    (ended : connection.handler.ending.isSome)
    (most : Nat)
    (snapshot : Snapshot) :
    connection.serve most snapshot = (connection, []) := by
  have finished : connection.handler.phase = .finished := by
    rw [Handler.phase, if_pos ended]
  simp only [serve, finished]

/-- No more is sent than there is. -/
theorem count_offer_le
    (connection : Connection)
    (bytes : Bytes) :
    (connection.offer bytes).1 ≤ bytes.length := by
  unfold offer
  split
  · exact Nat.min_le_left _ _
  · exact Nat.zero_le _

/-! ## What is carried -/

/-- Nothing that a client has sent and received, and none of the requests answered, got lost on a
connection. -/
structure Carries (connection : Connection) (sent received : Bytes)
    (answered : List (String × Snapshot)) : Prop where
  /-- The client has not gone away. -/
  present : connection.clientGone = false
  /-- The handler learns of the end after everything else. -/
  ended : connection.handler.inputEnded = true →
    connection.clientDone = true ∧ connection.requests = []
  /-- A handler that has ended has no more to send. -/
  silent : connection.handler.ending ≠ none → connection.handler.outgoing = []
  /-- The replies are somewhere on the way. -/
  replied : received ++ (connection.replies ++ connection.handler.outgoing) =
    Handler.replyLines answered
  /-- The bytes sent have arrived or are under way, and the handler follows what has arrived. -/
  arrived : ∃ arrived, arrived ++ connection.requests = sent ∧
    connection.handler.Follows arrived (answered.map Prod.fst)

theorem carries_new (capacity : Nat) : (new capacity).Carries [] [] [] := by
  refine ⟨rfl, ?_, ?_, rfl, [], rfl, Handler.follows_new⟩
  · rintro ⟨⟩
  · intro _
    rfl

theorem Carries.resize
    {connection : Connection}
    {sent received : Bytes}
    {answered : List (String × Snapshot)}
    (carries : connection.Carries sent received answered)
    (capacity : Nat) :
    Carries { connection with capacity } sent received answered :=
  ⟨carries.present, carries.ended, carries.silent, carries.replied, carries.arrived⟩

theorem Carries.offer
    {connection : Connection}
    {sent received : Bytes}
    {answered : List (String × Snapshot)}
    (carries : connection.Carries sent received answered)
    (bytes : Bytes) :
    (connection.offer bytes).2.Carries (sent ++ bytes.take (connection.offer bytes).1) received
      answered := by
  unfold Connection.offer
  split
  · rename_i accepts
    obtain ⟨arrived, whole, follows⟩ := carries.arrived
    refine ⟨carries.present, ?_, carries.silent, carries.replied, arrived, ?_, follows⟩
    · intro ended
      simp [open?, (carries.ended ended).1] at accepts
    · rw [← whole, List.append_assoc]
  · rw [List.take_zero, List.append_nil]
    exact carries

theorem Carries.collect
    {connection : Connection}
    {sent received : Bytes}
    {answered : List (String × Snapshot)}
    (carries : connection.Carries sent received answered)
    (most : Nat) :
    (connection.collect most).2.Carries sent (received ++ (connection.collect most).1)
      answered := by
  refine ⟨carries.present, carries.ended, carries.silent, ?_, carries.arrived⟩
  rw [← carries.replied]
  simp only [Connection.collect, List.append_assoc]
  rw [← List.append_assoc (connection.replies.take most), List.take_append_drop]

theorem Carries.close
    {connection : Connection}
    {sent received : Bytes}
    {answered : List (String × Snapshot)}
    (carries : connection.Carries sent received answered) :
    connection.close.Carries sent received answered := by
  refine ⟨carries.present, ?_, carries.silent, carries.replied, carries.arrived⟩
  intro ended
  exact ⟨rfl, (carries.ended ended).2⟩

theorem Carries.serve
    {connection : Connection}
    {sent received : Bytes}
    {answered : List (String × Snapshot)}
    (carries : connection.Carries sent received answered)
    (most : Nat)
    (snapshot : Snapshot) :
    (connection.serve most snapshot).1.Carries sent received
      (answered ++ Handler.answering snapshot (connection.serve most snapshot).2) := by
  have course := connection.serving most snapshot
  obtain ⟨arrived, whole, follows⟩ := carries.arrived
  generalize connection.serve most snapshot = result at course ⊢
  cases course with
  | finished ended =>
      simpa using carries
  | lost running pending gone =>
      rw [carries.present] at gone
      cases gone
  | replied running pending present count fits =>
      rw [Handler.answering_nil, List.append_nil]
      refine ⟨carries.present, carries.ended, ?_, ?_, arrived, whole, follows.sent count⟩
      · intro ended
        exact absurd running ended
      · rw [← carries.replied]
        simp only [Handler.sent, List.append_assoc, List.take_append_drop]
  | looked running clear looks =>
      refine ⟨carries.present, ?_, ?_, ?_, arrived, whole, ?_⟩
      · rw [Handler.inputEnded_look]
        exact carries.ended
      · exact Handler.outgoing_look_of_ended running clear
      · rw [Handler.outgoing_look clear, Handler.replyLines_append, ← carries.replied, clear]
        simp only [List.append_nil, List.append_assoc]
      · rw [List.map_append, Handler.map_fst_answering]
        exact follows.look running looks snapshot
  | received running clear idle pending =>
      have unfinished := (follows.waiting running idle).1
      rw [Handler.answering_nil, List.append_nil]
      refine ⟨carries.present, ?_, carries.silent, carries.replied,
        arrived ++ connection.requests.take most, ?_,
        follows.receive running unfinished _⟩
      · intro (ended : connection.handler.inputEnded = true)
        rw [unfinished] at ended
        cases ended
      · rw [List.append_assoc, List.take_append_drop]
        exact whole
  | learned running clear idle drained stopped =>
      have unfinished := (follows.waiting running idle).1
      rw [Handler.answering_nil, List.append_nil]
      refine ⟨carries.present, ?_, carries.silent, carries.replied, arrived, whole,
        follows.finishInput running unfinished⟩
      intro _
      cases stopped with
      | inl done => exact ⟨done, drained⟩
      | inr gone =>
          rw [carries.present] at gone
          cases gone
  | waited running clear idle drained unfinished present =>
      simpa using carries

end Connection
end SerialShare
