import SerialShare.Snapshot.Store
import SerialShare.Proofs.Connection.Channel

/-!
# A client's whole conversation

An exchange is a client who sends a byte string and keeps reading, its connection, and the board it
is answered from.  Its acts are the small steps of both sides, publications and changes of what the
transport can hold, in any order.  The requests answered are recorded, each with the snapshot that
was on the board when the handler took it.

`Accounted` says what holds at every moment of every run, and `Complete` what holds once neither
side can move any more.
-/

namespace SerialShare

/-- A client with a byte string to send, its connection, and the board it is answered from. -/
structure Exchange where
  /-- The connection of the client. -/
  connection : Connection
  /-- What the requests are answered from. -/
  board : Board
  /-- What the client has still to send. -/
  unsent : Bytes
  /-- What the client has received. -/
  received : Bytes
  /-- The requests answered, each with the snapshot on the board at that moment. -/
  answered : List (String × Snapshot)

namespace Exchange

open Connection (count_offer_le)
open Lines (reading overlong)

/-- A client that has just connected. -/
def start (capacity : Nat) (bytes : Bytes) : Exchange :=
  { connection := .new capacity
    board := .empty
    unsent := bytes
    received := []
    answered := [] }

/-- What can happen.  Bytes never move less than one at a time: to receive none is to learn of the
end. -/
inductive Act where
  /-- A status is published. -/
  | publish (status : Status)
  /-- The number of bytes that can be under way in each direction changes. -/
  | resize (capacity : Nat)
  /-- The client sends what fits of its next bytes, at most one and a number more. -/
  | offer (more : Nat)
  /-- The client stops sending, if it has sent everything. -/
  | finish
  /-- The client receives at most one byte and a number more. -/
  | collect (more : Nat)
  /-- The handler makes a step, receiving at most one byte and a number more if it receives. -/
  | serve (more : Nat)

/-- Do one act. -/
def step (exchange : Exchange) : Act → Exchange
  | .publish status => { exchange with board := exchange.board.publish status }
  | .resize capacity =>
    { exchange with connection := { exchange.connection with capacity } }
  | .offer more =>
    let (count, connection) := exchange.connection.offer (exchange.unsent.take (more + 1))
    { exchange with connection, unsent := exchange.unsent.drop count }
  | .finish =>
    if exchange.unsent.isEmpty then { exchange with connection := exchange.connection.close }
    else exchange
  | .collect more =>
    let (chunk, connection) := exchange.connection.collect (more + 1)
    { exchange with connection, received := exchange.received ++ chunk }
  | .serve more =>
    let (connection, events) := exchange.connection.serve (more + 1) exchange.board.latest
    { exchange with
      connection
      answered := exchange.answered ++ Handler.answering exchange.board.latest events }

/-- The exchange at a moment of a schedule. -/
def after (exchange : Exchange) (schedule : Nat → Act) : Nat → Exchange
  | 0 => exchange
  | moment + 1 => (exchange.after schedule moment).step (schedule moment)

/-- The lines answered. -/
def lines (exchange : Exchange) : List String := exchange.answered.map Prod.fst

/-! ## At every moment -/

/-- What an exchange keeps: the connection carries what has been sent of the byte string, and the
client has sent all of it when it stops. -/
structure Sound (bytes : Bytes) (exchange : Exchange) : Prop where
  /-- The connection carries what has been sent. -/
  carries : ∃ sent, sent ++ exchange.unsent = bytes ∧
    exchange.connection.Carries sent exchange.received exchange.answered
  /-- The client stops when it has sent everything. -/
  done : exchange.connection.clientDone = true → exchange.unsent = []

theorem sound_start
    (capacity : Nat)
    (bytes : Bytes) :
    (start capacity bytes).Sound bytes := by
  refine ⟨⟨[], rfl, Connection.carries_new capacity⟩, ?_⟩
  rintro ⟨⟩

theorem Sound.step
    {bytes : Bytes}
    {exchange : Exchange}
    (sound : exchange.Sound bytes)
    (act : Act) :
    (exchange.step act).Sound bytes := by
  obtain ⟨⟨sent, whole, carries⟩, done⟩ := sound
  cases act with
  | publish status => exact ⟨⟨sent, whole, carries⟩, done⟩
  | resize capacity => exact ⟨⟨sent, whole, carries.resize capacity⟩, done⟩
  | offer more =>
      have short := count_offer_le exchange.connection (exchange.unsent.take (more + 1))
      refine ⟨⟨_, ?_, carries.offer (exchange.unsent.take (more + 1))⟩, ?_⟩
      · rw [List.length_take] at short
        rw [List.take_take, Nat.min_eq_left (by omega), List.append_assoc]
        simp only [Exchange.step, List.take_append_drop]
        exact whole
      · intro stopped
        have before : exchange.connection.clientDone = true := by
          revert stopped
          simp only [Exchange.step, Connection.offer]
          split <;> exact id
        simp only [Exchange.step, done before, List.drop_nil]
  | finish =>
      simp only [Exchange.step]
      split
      · rename_i empty
        exact ⟨⟨sent, whole, carries.close⟩, fun _ => List.isEmpty_iff.mp empty⟩
      · exact ⟨⟨sent, whole, carries⟩, done⟩
  | collect more => exact ⟨⟨sent, whole, carries.collect (more + 1)⟩, done⟩
  | serve more =>
      refine ⟨⟨sent, whole, carries.serve (more + 1) exchange.board.latest⟩, ?_⟩
      intro stopped
      apply done
      rw [← (exchange.connection.serve_frame (more + 1) exchange.board.latest).2.1]
      exact stopped

theorem sound_after
    (capacity : Nat)
    (bytes : Bytes)
    (schedule : Nat → Act)
    (moment : Nat) :
    ((start capacity bytes).after schedule moment).Sound bytes := by
  induction moment with
  | zero => exact sound_start capacity bytes
  | succ moment inductionHypothesis => exact inductionHypothesis.step (schedule moment)

/-- What holds of an exchange at every moment. -/
structure Accounted (bytes : Bytes) (exchange : Exchange) : Prop where
  /-- What the client has received, what is under way to it, and what the handler still has to send
  are the replies to the lines answered, in order. -/
  replies : exchange.received ++
      (exchange.connection.replies ++ exchange.connection.handler.outgoing) =
    Handler.replyLines exchange.answered
  /-- The lines answered are the first of the byte string, whether or not the client still goes on
  to stop. -/
  lines : ∀ ended, (exchange.connection.clientDone = true → ended = true) →
    ∃ rest : Lines.Transcript, reading 1024 ended bytes = rest.after exchange.lines
  /-- A handler that would receive more has answered every line that has arrived, and none of them
  is over the limit, nor what follows them by more than the one byte. -/
  prompt : exchange.connection.handler.phase = .receiving →
    ∃ arrived, arrived ++ exchange.connection.requests ++ exchange.unsent = bytes ∧
      reading 1024 false arrived = ⟨exchange.lines, none⟩
  /-- The handler ends with a fault only before the first line over the limit. -/
  refused : ∀ fault, exchange.connection.handler.fault? = some fault →
    fault = .clientDisconnected (overlong 1024) ∧
      ∀ ended, (exchange.connection.clientDone = true → ended = true) →
        reading 1024 ended bytes = ⟨exchange.lines, some (overlong 1024)⟩
  /-- The handler ends without a fault only after the last line, when the client has stopped. -/
  completed : exchange.connection.handler.ending = some (.ok ()) →
    exchange.connection.clientDone = true ∧ reading 1024 true bytes = ⟨exchange.lines, none⟩

theorem Sound.accounted
    {bytes : Bytes}
    {exchange : Exchange}
    (sound : exchange.Sound bytes) :
    exchange.Accounted bytes := by
  obtain ⟨⟨sent, whole, carries⟩, done⟩ := sound
  obtain ⟨arrived, sentEqual, follows⟩ := carries.arrived
  have bytesEqual : bytes = arrived ++ (exchange.connection.requests ++ exchange.unsent) := by
    rw [← whole, ← sentEqual, List.append_assoc]
  -- What has not arrived yet may still be added, and is nothing once the handler knows of the end.
  have grows : ∀ ended, (exchange.connection.clientDone = true → ended = true) →
      Lines.Extends exchange.connection.handler.inputEnded ended
        (exchange.connection.requests ++ exchange.unsent) := by
    intro ended stopped inputEnded
    obtain ⟨clientDone, drained⟩ := carries.ended inputEnded
    refine ⟨stopped clientDone, ?_⟩
    rw [drained, done clientDone]
    rfl
  refine ⟨carries.replied, ?_, ?_, ?_, ?_⟩
  · intro ended stopped
    rw [bytesEqual]
    exact follows.begins (grows ended stopped)
  · intro receiving
    obtain ⟨running, _, idle⟩ := (Handler.phase_eq_receiving_iff _).mp receiving
    obtain ⟨unfinished, read⟩ := follows.waiting running idle
    have open_ : Lines.Extends exchange.connection.handler.inputEnded false [] := by
      rw [unfinished]
      rintro ⟨⟩
    have all := follows.running running false [] open_
    simp only [List.append_nil] at all
    refine ⟨arrived, ?_, ?_⟩
    · rw [bytesEqual, List.append_assoc]
    · refine all.trans ?_
      rw [read, Lines.Transcript.nil_after]
      rfl
  · intro fault failed
    obtain ⟨source, ending, rfl⟩ := (Handler.fault?_eq_some_iff _ _).mp failed
    have read : ∀ ended, (exchange.connection.clientDone = true → ended = true) →
        reading 1024 ended bytes = ⟨exchange.lines, some source⟩ := by
      intro ended stopped
      rw [bytesEqual]
      exact follows.refused source ending ended _ (grows ended stopped)
    have overlongEqual : source = overlong 1024 := by
      apply Lines.eq_overlong_of_refusal_reading
      exact congrArg Lines.Transcript.refusal (read true fun _ => rfl)
    rw [overlongEqual] at read
    exact ⟨by rw [overlongEqual], read⟩
  · intro ending
    obtain ⟨inputEnded, read⟩ := follows.completed ending
    obtain ⟨clientDone, drained⟩ := carries.ended inputEnded
    refine ⟨clientDone, ?_⟩
    rw [bytesEqual, drained, done clientDone, List.append_nil, List.append_nil]
    exact read

/-! ## The snapshots used -/

/-- The statuses published before a moment of a schedule, in order. -/
def published (schedule : Nat → Act) : Nat → List Status
  | 0 => []
  | moment + 1 =>
    published schedule moment ++
      match schedule moment with
      | .publish status => [status]
      | _ => []

theorem latest_after
    (capacity : Nat)
    (bytes : Bytes)
    (schedule : Nat → Act)
    (moment : Nat) :
    ((start capacity bytes).after schedule moment).board.latest =
      (published schedule moment).getLast? := by
  induction moment with
  | zero => rfl
  | succ moment inductionHypothesis =>
      rw [after, published]
      cases schedule moment with
      | publish status =>
          rw [List.getLast?_concat]
          rfl
      | finish =>
          rw [List.append_nil, ← inductionHypothesis]
          simp only [step]
          split <;> rfl
      | resize capacity => rw [List.append_nil]; exact inductionHypothesis
      | offer more => rw [List.append_nil]; exact inductionHypothesis
      | collect more => rw [List.append_nil]; exact inductionHypothesis
      | serve more => rw [List.append_nil]; exact inductionHypothesis

/-- Whatever is answered at a moment is answered from the last status published before it. -/
theorem answered_after_succ
    (capacity : Nat)
    (bytes : Bytes)
    (schedule : Nat → Act)
    (moment : Nat) :
    ∃ requests : List String,
      ((start capacity bytes).after schedule (moment + 1)).answered =
        ((start capacity bytes).after schedule moment).answered ++
          requests.map fun request => (request, (published schedule moment).getLast?) := by
  rw [← latest_after capacity bytes, after]
  cases schedule moment with
  | serve more => exact ⟨_, rfl⟩
  | finish =>
      refine ⟨[], ?_⟩
      rw [List.map_nil, List.append_nil]
      simp only [step]
      split <;> rfl
  | publish status => exact ⟨[], (List.append_nil _).symm⟩
  | resize capacity => exact ⟨[], (List.append_nil _).symm⟩
  | offer more => exact ⟨[], (List.append_nil _).symm⟩
  | collect more => exact ⟨[], (List.append_nil _).symm⟩

/-- Lines are answered by steps of the handler, from the last status published before. -/
theorem exists_serve_of_mem_answered
    {capacity : Nat}
    {bytes : Bytes}
    {schedule : Nat → Act}
    {moment : Nat}
    {entry : String × Snapshot}
    (listed : entry ∈ ((start capacity bytes).after schedule moment).answered) :
    ∃ earlier < moment, (∃ more, schedule earlier = .serve more) ∧
      entry.2 = (published schedule earlier).getLast? := by
  induction moment with
  | zero => cases listed
  | succ moment inductionHypothesis =>
      by_cases before : entry ∈ ((start capacity bytes).after schedule moment).answered
      · obtain ⟨earlier, reached, found⟩ := inductionHypothesis before
        exact ⟨earlier, Nat.lt_succ_of_lt reached, found⟩
      · rw [after] at listed
        refine ⟨moment, Nat.lt_succ_self moment, ?_⟩
        cases act : schedule moment with
        | serve more =>
            simp only [act, step, List.mem_append, before, false_or] at listed
            obtain ⟨request, _, rfl⟩ := List.mem_map.mp listed
            exact ⟨⟨more, rfl⟩, latest_after capacity bytes schedule moment⟩
        | finish =>
            simp only [act, step] at listed
            split at listed <;> exact absurd listed before
        | publish status =>
            rw [act] at listed
            exact absurd listed before
        | resize capacity =>
            rw [act] at listed
            exact absurd listed before
        | offer more =>
            rw [act] at listed
            exact absurd listed before
        | collect more =>
            rw [act] at listed
            exact absurd listed before

/-! ## When nothing is left to do -/

/-- How a handler ends that has read everything there is. -/
def endingFor (clientDone : Bool) : Option IoFault → Option (Except IoFault Unit)
  | some fault => some (.error fault)
  | none => if clientDone then some (.ok ()) else none

/-- Everything that the client has sent has been read, and it has received all it is owed. -/
structure Complete (bytes : Bytes) (exchange : Exchange) : Prop where
  /-- The client has received the replies to the lines answered, and nothing else. -/
  received : exchange.received = Handler.replyLines exchange.answered
  /-- The lines answered are those of the byte string before the first over the limit, and the
  handler has ended as the byte string says. -/
  read : ∃ refusal,
    reading 1024 exchange.connection.clientDone bytes = ⟨exchange.lines, refusal⟩ ∧
      exchange.connection.handler.ending = endingFor exchange.connection.clientDone refusal

/-- Neither side can move: everything for the client has arrived, and the handler has ended or has
everything that the client wants to send. -/
def Settled (exchange : Exchange) : Prop :=
  exchange.connection.replies = [] ∧
    (exchange.connection.handler.ending ≠ none ∨
      exchange.connection.handler.outgoing = [] ∧
        exchange.connection.handler.looking = false ∧
        exchange.connection.requests = [] ∧
        exchange.unsent = [] ∧
        exchange.connection.clientDone = false)

theorem Sound.complete
    {bytes : Bytes}
    {exchange : Exchange}
    (sound : exchange.Sound bytes)
    (settled : exchange.Settled) :
    exchange.Complete bytes := by
  obtain ⟨arrived, rest⟩ := settled
  obtain ⟨⟨sent, whole, carries⟩, done⟩ := sound
  have accounted : exchange.Accounted bytes := Sound.accounted ⟨⟨sent, whole, carries⟩, done⟩
  have silent : exchange.connection.handler.outgoing = [] := by
    cases rest with
    | inl ended => exact carries.silent ended
    | inr waiting => exact waiting.1
  refine ⟨?_, ?_⟩
  · have replies := accounted.replies
    rw [arrived, silent, List.append_nil, List.append_nil] at replies
    exact replies
  · cases ending : exchange.connection.handler.ending with
    | some result =>
        cases result with
        | error source =>
            obtain ⟨equal, read⟩ := accounted.refused (.clientDisconnected source)
              ((Handler.fault?_eq_some_iff _ _).mpr ⟨source, ending, rfl⟩)
            cases equal
            exact ⟨some (overlong 1024), read _ id, rfl⟩
        | ok nothing =>
            obtain ⟨stopped, read⟩ := accounted.completed ending
            rw [stopped]
            exact ⟨none, read, rfl⟩
    | none =>
        obtain ⟨clear, idle, drained, sentAll, unfinished⟩ :=
          rest.resolve_left fun ended => ended ending
        obtain ⟨arrived, equal, read⟩ := accounted.prompt
          ((Handler.phase_eq_receiving_iff _).mpr ⟨ending, clear, idle⟩)
        rw [drained, sentAll, List.append_nil, List.append_nil] at equal
        rw [unfinished, ← equal]
        exact ⟨none, read, rfl⟩

end Exchange
end SerialShare
