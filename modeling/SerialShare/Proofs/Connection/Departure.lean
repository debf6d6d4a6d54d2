import SerialShare.Proofs.Connection.Progress

/-!
# A peer that goes away

A peer sends a byte string, stops sending, and accepts a number of replies.  Then it is gone: its
bytes still arrive, and nothing can be sent to it any more.  The transport may deliver and accept as
few bytes at a time as it likes.

Three things can end the handler: a reply that cannot be sent, a line over the limit, and the end of
the byte string.  The one that comes first in the order of the lines does, and no line after it is
looked at.  `Attended` holds until a reply fails and `Lost` from then on; every step before the end
makes less the work that is left, so that the end comes.
-/

namespace SerialShare

/-- A peer's connection, and what has become of it. -/
structure Departure where
  /-- The connection. -/
  connection : Connection
  /-- What the peer has accepted. -/
  accepted : Bytes
  /-- The lines resolved, each with the snapshot it was resolved against. -/
  answered : List (String × Snapshot)

namespace Departure

open Handler (replyLines)
open Lines (items overlong Fits textOf)

/-- What is outside when the handler makes a step. -/
structure Turn where
  /-- What is on the board. -/
  snapshot : Snapshot
  /-- The transport takes at most one byte and a number more. -/
  room : Nat
  /-- The transport delivers at most one byte and a number more. -/
  most : Nat

/-- A peer that has sent a byte string and stopped sending. -/
def start (bytes : Bytes) : Departure :=
  { connection := ((Connection.new bytes.length).offer bytes).2.close
    accepted := []
    answered := [] }

/-- The peer has accepted a number of replies. -/
def Satisfied (patience : Nat) (departure : Departure) : Prop :=
  patience ≤ departure.answered.length ∧
    departure.accepted = replyLines (departure.answered.take patience)

instance (patience : Nat) (departure : Departure) : Decidable (departure.Satisfied patience) :=
  inferInstanceAs (Decidable (_ ∧ _))

/-- The connection as the handler finds it: a peer that has accepted its number of replies is
gone. -/
def found (patience : Nat) (departure : Departure) (turn : Turn) : Connection :=
  let connection :=
    if departure.Satisfied patience then departure.connection.vanish else departure.connection
  { connection with capacity := turn.room + 1 }

/-- The handler makes a step, and the peer accepts what was sent in it. -/
def step (patience : Nat) (departure : Departure) (turn : Turn) : Departure :=
  let (connection, events) := (departure.found patience turn).serve (turn.most + 1) turn.snapshot
  let (chunk, connection) := connection.collect (turn.room + 1)
  { connection
    accepted := departure.accepted ++ chunk
    answered := departure.answered ++ Handler.answering turn.snapshot events }

/-- The departure at a moment. -/
def after (patience : Nat) (departure : Departure) (turns : Nat → Turn) : Nat → Departure
  | 0 => departure
  | moment + 1 => (departure.after patience turns moment).step patience (turns moment)

/-- The lines resolved. -/
def lines (departure : Departure) : List String := departure.answered.map Prod.fst

/-! ## Until a reply fails -/

variable {patience : Nat} {bytes : Bytes} {departure : Departure}

/-- What holds as long as no reply has failed. -/
structure Attended (patience : Nat) (bytes : Bytes) (departure : Departure) : Prop where
  /-- The peer has stopped sending. -/
  stopped : departure.connection.clientDone = true
  /-- The peer accepts at once. -/
  clear : departure.connection.replies = []
  /-- A peer is gone only when it has accepted its number of replies. -/
  gone : departure.connection.clientGone = true → departure.Satisfied patience
  /-- A handler that has ended has no more to send. -/
  silent : departure.connection.handler.ending ≠ none →
    departure.connection.handler.outgoing = []
  /-- The handler learns of the end after everything else. -/
  ended : departure.connection.handler.inputEnded = true → departure.connection.requests = []
  /-- The replies have been accepted, or are still to be sent. -/
  replied : departure.accepted ++ departure.connection.handler.outgoing =
    replyLines departure.answered
  /-- The handler follows what has arrived. -/
  arrived : ∃ arrived, arrived ++ departure.connection.requests = bytes ∧
    departure.connection.handler.Follows arrived departure.lines
  /-- No line is resolved after the one whose reply will fail. -/
  within : departure.answered.length ≤ patience + 1
  /-- Only a reply that cannot be sent any more goes beyond the number. -/
  beyond : departure.answered.length = patience + 1 →
    departure.Satisfied patience ∧ departure.connection.handler.outgoing ≠ []

/-- Everything the peer has sent is under way when the handler begins. -/
theorem connection_start (bytes : Bytes) :
    (start bytes).connection =
      { Connection.new bytes.length with requests := bytes, clientDone := true } := by
  have accepts : (Connection.new bytes.length).open? = true := rfl
  simp only [start, Connection.offer, if_pos accepts, Connection.close]
  simp [Connection.new]

theorem attended_start
    (patience : Nat)
    (bytes : Bytes) :
    (start bytes).Attended patience bytes := by
  have connection := connection_start bytes
  generalize shape : start bytes = departure at connection ⊢
  have accepted : departure.accepted = [] := by rw [← shape]; rfl
  have answered : departure.answered = [] := by rw [← shape]; rfl
  obtain ⟨_, _, _⟩ := departure
  cases connection
  cases accepted
  cases answered
  refine ⟨rfl, rfl, ?_, fun _ => rfl, ?_, rfl, ⟨[], rfl, Handler.follows_new⟩, Nat.zero_le _, ?_⟩
  · rintro ⟨⟩
  · rintro ⟨⟩
  · rintro ⟨⟩

/-- What the handler finds, as long as no reply has failed. -/
theorem Attended.found_eq
    (attended : departure.Attended patience bytes)
    (turn : Turn) :
    departure.found patience turn =
      { departure.connection with
        capacity := turn.room + 1
        clientGone := decide (departure.Satisfied patience) } := by
  by_cases satisfied : departure.Satisfied patience
  · simp only [found, if_pos satisfied, decide_eq_true satisfied, Connection.vanish,
      attended.clear]
  · have present : departure.connection.clientGone = false :=
      Bool.eq_false_iff.mpr (mt attended.gone satisfied)
    simp only [found, if_neg satisfied, decide_eq_false satisfied, ← present]

/-- What the handler does, as long as no reply has failed. -/
theorem Attended.serving
    (attended : departure.Attended patience bytes)
    (turn : Turn) :
    Connection.Serving
      { departure.connection with
        capacity := turn.room + 1
        clientGone := decide (departure.Satisfied patience) }
      (turn.most + 1) turn.snapshot
      ((departure.found patience turn).serve (turn.most + 1) turn.snapshot) := by
  rw [← attended.found_eq turn]
  exact Connection.serving _ _ _

/-- Once a peer has accepted its number of replies, lines resolved later change nothing about
that. -/
theorem Satisfied.append
    {accepted : Bytes}
    {connection next : Connection}
    {answered : List (String × Snapshot)}
    (satisfied : Satisfied patience ⟨connection, accepted, answered⟩)
    (more : List (String × Snapshot)) :
    Satisfied patience ⟨next, accepted, answered ++ more⟩ := by
  obtain ⟨enough, equal⟩ := satisfied
  refine ⟨?_, ?_⟩
  · rw [List.length_append]
    exact Nat.le_add_right_of_le enough
  · rw [List.take_append_of_le_length enough]
    exact equal

/-! ## After a reply has failed -/

/-- What holds once a reply has failed: it was the first beyond the number, and nothing of it was
accepted. -/
structure Lost (patience : Nat) (bytes : Bytes) (departure : Departure) : Prop where
  /-- Nothing is under way to the peer. -/
  clear : departure.connection.replies = []
  /-- The handler has ended because of it. -/
  ending : departure.connection.handler.ending = some (.error Handler.brokenPipe)
  /-- The line whose reply failed is the last one resolved. -/
  resolved : departure.answered.length = patience + 1
  /-- The peer has accepted the replies before. -/
  accepted : departure.accepted = replyLines (departure.answered.take patience)
  /-- The lines resolved are the first of the byte string. -/
  begins : ∃ rest : Lines.Transcript,
    Lines.plain 1024 bytes = rest.after departure.lines

/-- The handler finds no reply under way, whether or not the peer is there. -/
theorem replies_found
    (patience : Nat)
    (clear : departure.connection.replies = [])
    (turn : Turn) :
    (departure.found patience turn).replies = [] := by
  unfold found
  split
  · rfl
  · exact clear

theorem handler_found
    (patience : Nat)
    (departure : Departure)
    (turn : Turn) :
    (departure.found patience turn).handler = departure.connection.handler := by
  unfold found
  split <;> rfl

/-- A step after the end of the handler changes nothing but the room on the transport. -/
theorem step_of_ended
    (ended : departure.connection.handler.ending.isSome)
    (clear : departure.connection.replies = [])
    (turn : Turn) :
    departure.step patience turn =
      { departure with connection := departure.found patience turn } := by
  have endedHere : (departure.found patience turn).handler.ending.isSome := by
    rwa [handler_found]
  have clearHere := replies_found patience clear turn
  simp only [step, Connection.serve_of_ended endedHere, Connection.collect, clearHere,
    List.take_nil, List.drop_nil, List.append_nil, Handler.answering_nil]
  rw [← clearHere]

/-! ## One step -/

/-- What is left to do.  Bytes count for more the earlier they are on their way, and reading counts
for more than sending. -/
def work (departure : Departure) : Nat ×ₗ Nat :=
  toLex (3 * departure.connection.requests.length + departure.connection.handler.toRead,
    departure.connection.handler.outgoing.length)

theorem work_lt_work_iff (later earlier : Departure) :
    later.work < earlier.work ↔
      3 * later.connection.requests.length + later.connection.handler.toRead <
          3 * earlier.connection.requests.length + earlier.connection.handler.toRead ∨
        3 * later.connection.requests.length + later.connection.handler.toRead =
            3 * earlier.connection.requests.length + earlier.connection.handler.toRead ∧
          later.connection.handler.outgoing.length < earlier.connection.handler.outgoing.length :=
  Prod.Lex.toLex_lt_toLex

/-- What is to be sent to a peer that has accepted its number of replies is the reply to the first
line beyond. -/
theorem Attended.length_of_pending
    (attended : departure.Attended patience bytes)
    (satisfied : departure.Satisfied patience)
    (pending : departure.connection.handler.outgoing ≠ []) :
    departure.answered.length = patience + 1 := by
  refine Nat.le_antisymm attended.within (Nat.lt_of_le_of_ne satisfied.1 ?_)
  -- With no line resolved beyond the number, everything there was to send has been accepted.
  intro all
  have replied := attended.replied
  rw [satisfied.2, all, List.take_length] at replied
  exact pending (List.append_right_eq_self.mp replied)

/-- With nothing to send, no line has been resolved beyond the number. -/
theorem Attended.length_le_of_clear
    (attended : departure.Attended patience bytes)
    (clear : departure.connection.handler.outgoing = []) :
    departure.answered.length ≤ patience := by
  refine Nat.le_of_lt_succ (Nat.lt_of_le_of_ne attended.within fun beyond => ?_)
  exact (attended.beyond beyond).2 clear

/-- Looking for a line keeps this: at most one more is resolved, and if that one goes beyond the
number, the peer has accepted all replies before. -/
theorem Attended.look
    (attended : departure.Attended patience bytes)
    (running : departure.connection.handler.ending = none)
    (clear : departure.connection.handler.outgoing = [])
    (looks : departure.connection.handler.looking = true)
    (capacity : Nat)
    (snapshot : Snapshot) :
    Attended patience bytes
      { connection :=
          { departure.connection with
            capacity
            replies := []
            clientGone := decide (departure.Satisfied patience)
            handler := (departure.connection.handler.look snapshot).1 }
        accepted := departure.accepted
        answered := departure.answered ++
          Handler.answering snapshot (departure.connection.handler.look snapshot).2 } := by
  obtain ⟨arrived, whole, follows⟩ := attended.arrived
  have room := attended.length_le_of_clear clear
  have replied := attended.replied
  rw [clear, List.append_nil] at replied
  refine ⟨attended.stopped, rfl, ?_, ?_, ?_, ?_, ⟨arrived, whole, ?_⟩, ?_, ?_⟩
  · exact fun gone => (of_decide_eq_true gone).append _
  · exact Handler.outgoing_look_of_ended running clear
  · rw [Handler.inputEnded_look]
    exact attended.ended
  · rw [Handler.outgoing_look clear, Handler.replyLines_append, ← replied]
  · rw [lines, List.map_append, Handler.map_fst_answering]
    exact follows.look running looks snapshot
  · obtain nothing | ⟨request, one, _⟩ := departure.connection.handler.answering_look snapshot
    · rw [nothing, List.append_nil]
      exact attended.within
    · rw [one, List.length_append]
      exact Nat.succ_le_succ room
  · obtain nothing | ⟨request, one, pending⟩ :=
      departure.connection.handler.answering_look snapshot
    · rw [nothing, List.append_nil]
      exact fun beyond => absurd clear (attended.beyond beyond).2
    · rw [one, List.length_append]
      intro beyond
      obtain rfl : departure.answered.length = patience := Nat.succ.inj beyond
      refine ⟨⟨?_, ?_⟩, pending⟩
      · simp
      · simpa using replied

theorem Attended.step
    (attended : departure.Attended patience bytes)
    (turn : Turn) :
    (departure.step patience turn).Attended patience bytes ∨
      (departure.step patience turn).Lost patience bytes := by
  have course := attended.serving turn
  obtain ⟨arrived, whole, follows⟩ := attended.arrived
  simp only [Departure.step]
  generalize (departure.found patience turn).serve (turn.most + 1) turn.snapshot = result
    at course ⊢
  obtain ⟨⟨capacity, requests, replies, done, gone, handler⟩, accepted, answered⟩ := departure
  obtain rfl : replies = [] := attended.clear
  dsimp only [lines] at whole follows course
  cases course with
  | finished ended =>
      simp only [Connection.collect, List.take_nil, List.drop_nil, List.append_nil,
        Handler.answering_nil]
      exact Or.inl ⟨attended.stopped, rfl, of_decide_eq_true, attended.silent, attended.ended,
        attended.replied, attended.arrived, attended.within, attended.beyond⟩
  | lost running pending gone =>
      have satisfied := of_decide_eq_true gone
      simp only [Connection.collect, List.take_nil, List.drop_nil, List.append_nil,
        Handler.answering_nil]
      refine Or.inr ⟨rfl, rfl, attended.length_of_pending satisfied pending, satisfied.2, ?_⟩
      rw [← whole]
      exact follows.begins fun inputEnded => ⟨rfl, attended.ended inputEnded⟩
  | replied running pending present count fits =>
      have unsatisfied := of_decide_eq_false present
      dsimp only [List.length_nil] at fits
      have short : (handler.outgoing.take count).length ≤ turn.room + 1 := by
        rw [List.length_take, fits]
        omega
      simp only [Connection.collect, List.nil_append, List.append_nil, Handler.answering_nil,
        List.take_of_length_le short, List.drop_eq_nil_of_le short]
      refine Or.inl ⟨attended.stopped, rfl, ?_, ?_, attended.ended, ?_,
        ⟨arrived, whole, follows.sent count⟩, attended.within, ?_⟩
      · exact fun gone => absurd (of_decide_eq_true gone) unsatisfied
      · exact fun ended => absurd running ended
      · simpa only [Handler.sent, List.append_assoc, List.take_append_drop] using attended.replied
      · exact fun beyond => absurd (attended.beyond beyond).1 unsatisfied
  | looked running clear looks =>
      simp only [Connection.collect, List.take_nil, List.drop_nil, List.append_nil]
      exact Or.inl (attended.look running clear looks (turn.room + 1) turn.snapshot)
  | received running clear idle pending =>
      have unfinished := (follows.waiting running idle).1
      simp only [Connection.collect, List.take_nil, List.drop_nil, List.append_nil,
        Handler.answering_nil]
      refine Or.inl ⟨attended.stopped, rfl, of_decide_eq_true, attended.silent, ?_,
        attended.replied, ⟨_, ?_, follows.receive running unfinished _⟩, attended.within,
        attended.beyond⟩
      · intro (inputEnded : handler.inputEnded = true)
        rw [unfinished] at inputEnded
        cases inputEnded
      · rw [List.append_assoc, List.take_append_drop]
        exact whole
  | learned running clear idle drained stopped =>
      have unfinished := (follows.waiting running idle).1
      simp only [Connection.collect, List.take_nil, List.drop_nil, List.append_nil,
        Handler.answering_nil]
      exact Or.inl ⟨attended.stopped, rfl, of_decide_eq_true, attended.silent, fun _ => drained,
        attended.replied, ⟨arrived, whole, follows.finishInput running unfinished⟩, attended.within,
        attended.beyond⟩
  | waited running clear idle drained unfinished present =>
      have stopped := attended.stopped
      rw [unfinished] at stopped
      cases stopped

/-- Every step before the end makes the work less. -/
theorem Attended.work_step_lt
    (attended : departure.Attended patience bytes)
    (running : departure.connection.handler.ending = none)
    (turn : Turn) :
    (departure.step patience turn).work < departure.work := by
  have course := attended.serving turn
  obtain ⟨arrived, whole, follows⟩ := attended.arrived
  simp only [Departure.step]
  generalize (departure.found patience turn).serve (turn.most + 1) turn.snapshot = result
    at course ⊢
  obtain ⟨⟨capacity, requests, replies, done, gone, handler⟩, accepted, answered⟩ := departure
  obtain rfl : replies = [] := attended.clear
  dsimp only [lines] at whole follows running course
  rw [work_lt_work_iff]
  cases course with
  | finished ended =>
      rw [running] at ended
      cases ended
  | lost _ pending gone =>
      left
      rw [Handler.toRead_of_running running, Handler.toRead_of_ended rfl]
      simp only [Connection.collect]
      omega
  | replied _ pending present count fits =>
      dsimp only [List.length_nil] at pending fits
      have some := List.length_pos_iff.mpr pending
      right
      refine ⟨rfl, ?_⟩
      simp only [Connection.collect, Handler.sent, List.length_drop, fits]
      omega
  | looked _ clear looks =>
      left
      have less := follows.toRead_look_lt running looks turn.snapshot
      simp only [Connection.collect]
      omega
  | received _ clear idle pending =>
      dsimp only at idle pending
      have some := List.length_pos_iff.mpr pending
      left
      simp only [Connection.collect, Handler.toRead, Handler.receive, running, idle,
        List.length_append, List.length_take, List.length_drop, Bool.toNat_true,
        Bool.toNat_false]
      omega
  | learned _ clear idle drained stopped =>
      dsimp only at idle
      have unfinished := (follows.waiting running idle).1
      left
      simp only [Connection.collect, Handler.toRead, Handler.finishInput, running, idle, unfinished,
        Bool.toNat_true, Bool.toNat_false, Bool.not_true, Bool.not_false]
      omega
  | waited _ clear idle drained unfinished present =>
      have stopped := attended.stopped
      rw [unfinished] at stopped
      cases stopped

theorem Lost.step
    (lost : departure.Lost patience bytes)
    (turn : Turn) :
    (departure.step patience turn).Lost patience bytes := by
  have ended : departure.connection.handler.ending.isSome := by
    rw [lost.ending]
    rfl
  rw [step_of_ended ended lost.clear]
  refine ⟨replies_found patience lost.clear turn, ?_, lost.resolved, lost.accepted, lost.begins⟩
  dsimp only
  rw [handler_found]
  exact lost.ending

/-- A handler that has ended does not start again. -/
theorem running_of_step
    {turn : Turn}
    (running : (departure.step patience turn).connection.handler.ending = none) :
    departure.connection.handler.ending = none := by
  rw [← handler_found patience departure turn]
  exact Connection.running_of_serve running

/-! ## Every run -/

theorem attended_or_lost_after
    (patience : Nat)
    (bytes : Bytes)
    (turns : Nat → Turn)
    (moment : Nat) :
    ((start bytes).after patience turns moment).Attended patience bytes ∨
      ((start bytes).after patience turns moment).Lost patience bytes := by
  induction moment with
  | zero => exact Or.inl (attended_start patience bytes)
  | succ moment inductionHypothesis =>
      cases inductionHypothesis with
      | inl attended => exact attended.step (turns moment)
      | inr lost => exact Or.inr (lost.step (turns moment))

/-- The handler ends, and stays so. -/
theorem eventually_ended
    (patience : Nat)
    (bytes : Bytes)
    (turns : Nat → Turn) :
    ∃ first, ∀ moment, first ≤ moment →
      ((start bytes).after patience turns moment).connection.handler.ending ≠ none := by
  have wellFounded : WellFounded ((· < ·) : Nat ×ₗ Nat → Nat ×ₗ Nat → Prop) := wellFounded_lt
  obtain ⟨least, ⟨first, rfl⟩, minimal⟩ := wellFounded.has_min
    (Set.range fun moment => ((start bytes).after patience turns moment).work) ⟨_, 0, rfl⟩
  refine ⟨first, fun moment reached => ?_⟩
  induction moment, reached using Nat.le_induction with
  | base =>
      intro running
      cases attended_or_lost_after patience bytes turns first with
      | inl attended =>
          exact minimal _ ⟨first + 1, rfl⟩ (attended.work_step_lt running (turns first))
      | inr lost =>
          rw [lost.ending] at running
          cases running
  | succ moment reached inductionHypothesis =>
      exact mt running_of_step inductionHypothesis

/-! ## The end -/

/-- What a departure comes to. -/
structure Concluded (patience : Nat) (bytes : Bytes) (departure : Departure) : Prop where
  /-- With more lines than replies accepted, all of them within the limit up to the one whose reply
  fails, the handler ends because of that, and resolves no line after it. -/
  lost : patience < (items bytes).length →
    (∀ line ∈ (items bytes).take (patience + 1), Fits 1024 line) →
      departure.connection.handler.fault? = some (.clientDisconnected Handler.brokenPipe) ∧
        departure.lines = ((items bytes).take (patience + 1)).map textOf ∧
        departure.accepted = replyLines (departure.answered.take patience)
  /-- With a line over the limit before that, the handler ends because of it, when the peer has
  accepted the replies to the lines before. -/
  refused : ∀ count line, count ≤ patience → (items bytes)[count]? = some line →
    ¬Fits 1024 line → (∀ earlier ∈ (items bytes).take count, Fits 1024 earlier) →
      departure.connection.handler.fault? = some (.clientDisconnected (overlong 1024)) ∧
        departure.lines = ((items bytes).take count).map textOf ∧
        departure.accepted = replyLines departure.answered
  /-- Otherwise the handler ends without a fault, when the peer has accepted all replies. -/
  completed : (items bytes).length ≤ patience → (∀ line ∈ items bytes, Fits 1024 line) →
    departure.connection.handler.ending = some (.ok ()) ∧
      departure.lines = (items bytes).map textOf ∧
      departure.accepted = replyLines departure.answered
  /-- There is nothing to fail at in an empty byte string. -/
  nothing : bytes = [] →
    departure.connection.handler.ending = some (.ok ()) ∧ departure.accepted = []

theorem length_lines (departure : Departure) :
    departure.lines.length = departure.answered.length :=
  List.length_map _

/-- A handler that has ended, when no reply has failed, has read all of the byte string up to the
first line over the limit. -/
theorem Attended.read
    (attended : departure.Attended patience bytes)
    (ended : departure.connection.handler.ending ≠ none) :
    ∃ refusal, Lines.plain 1024 bytes = ⟨departure.lines, refusal⟩ ∧
      departure.connection.handler.ending = Exchange.endingFor true refusal := by
  obtain ⟨arrived, whole, follows⟩ := attended.arrived
  cases ending : departure.connection.handler.ending with
  | none => exact absurd ending ended
  | some result =>
      cases result with
      | error fault =>
          have read := follows.refused fault ending true _ fun inputEnded =>
            ⟨rfl, attended.ended inputEnded⟩
          rw [whole] at read
          exact ⟨some fault, read, rfl⟩
      | ok nothing =>
          obtain ⟨inputEnded, read⟩ := follows.completed ending
          rw [attended.ended inputEnded, List.append_nil] at whole
          rw [whole] at read
          exact ⟨none, read, rfl⟩

/-- Every reply has been accepted then. -/
theorem Attended.accepted_of_ended
    (attended : departure.Attended patience bytes)
    (ended : departure.connection.handler.ending ≠ none) :
    departure.accepted = replyLines departure.answered := by
  have replied := attended.replied
  rwa [attended.silent ended, List.append_nil] at replied

theorem Attended.concluded
    (attended : departure.Attended patience bytes)
    (ended : departure.connection.handler.ending ≠ none) :
    departure.Concluded patience bytes := by
  obtain ⟨refusal, read, ending⟩ := attended.read ended
  have accepted := attended.accepted_of_ended ended
  have few := attended.length_le_of_clear (attended.silent ended)
  rw [← length_lines] at few
  refine ⟨fun more fits => ?_, fun count line _ found long fits => ?_, fun _ fits => ?_, ?_⟩
  · -- Too few lines have been resolved for a reply to fail.
    rw [Lines.plain_of_fits_take fits] at read
    have lines := congrArg (List.length ∘ Lines.Transcript.lines) read
    simp only [Function.comp, Lines.Transcript.after, List.length_append, List.length_map,
      List.length_take] at lines
    omega
  · rw [Lines.plain_of_not_fits found long fits] at read
    obtain ⟨lines, rfl⟩ := Lines.Transcript.mk.inj read
    exact ⟨(Handler.fault?_eq_some_iff _ _).mpr ⟨_, ending, rfl⟩, lines.symm, accepted⟩
  · rw [Lines.plain_of_fits fits] at read
    obtain ⟨lines, rfl⟩ := Lines.Transcript.mk.inj read
    exact ⟨ending, lines.symm, accepted⟩
  · rintro rfl
    obtain ⟨lines, rfl⟩ := Lines.Transcript.mk.inj read
    have answered : departure.answered = [] := List.map_eq_nil_iff.mp lines.symm
    rw [answered] at accepted
    exact ⟨ending, accepted⟩

theorem Lost.concluded (lost : departure.Lost patience bytes) :
    departure.Concluded patience bytes := by
  obtain ⟨rest, read⟩ := lost.begins
  have resolved := lost.resolved
  rw [← length_lines] at resolved
  -- More lines have been read than the peer accepts replies to.
  have many : patience + 1 ≤ (Lines.plain 1024 bytes).lines.length := by
    rw [read, Lines.Transcript.after, List.length_append, resolved]
    exact Nat.le_add_right _ _
  refine ⟨fun more fits => ?_, fun count line _ found long fits => ?_, fun _ fits => ?_, ?_⟩
  · refine ⟨(Handler.fault?_eq_some_iff _ _).mpr ⟨_, lost.ending, rfl⟩, ?_, lost.accepted⟩
    rw [Lines.plain_of_fits_take fits] at read
    refine (List.append_inj (congrArg Lines.Transcript.lines read) ?_).1.symm
    rw [List.length_map, List.length_take, Nat.min_eq_left more, resolved]
  · rw [Lines.plain_of_not_fits found long fits, List.length_map, List.length_take] at many
    omega
  · rw [Lines.plain_of_fits fits, List.length_map] at many
    omega
  · rintro rfl
    exact absurd many (Nat.not_succ_le_zero patience)

/-- A peer that goes away ends its handler at the right line.  It sends a byte string, stops sending
and accepts a number of replies, after which none can be sent to it.  However few bytes move at a
time, the lines are resolved in order until a reply fails, a line is over the limit, or the byte
string ends, whichever comes first. -/
theorem departure_ends_the_handler
    (patience : Nat)
    (bytes : Bytes)
    (turns : Nat → Turn) :
    ∃ first, ∀ moment, first ≤ moment →
      ((start bytes).after patience turns moment).Concluded patience bytes := by
  obtain ⟨first, ended⟩ := eventually_ended patience bytes turns
  refine ⟨first, fun moment reached => ?_⟩
  cases attended_or_lost_after patience bytes turns moment with
  | inl attended => exact attended.concluded (ended moment reached)
  | inr lost => exact lost.concluded

/-- Of three lines, sent to and fro one byte at a time, the second is the last one resolved when the
peer accepts one reply. -/
theorem departure_ends_the_handler_at_the_second_of_three :
    ∃ first, ∀ moment, first ≤ moment →
      let departure :=
        (start (Text.utf8 "get_hw\nget_sw\nget_relay\n")).after 1 (fun _ => ⟨none, 0, 0⟩) moment
      departure.connection.handler.fault? = some (.clientDisconnected Handler.brokenPipe) ∧
        departure.lines = ["get_hw", "get_sw"] ∧
        departure.accepted = replyLines (departure.answered.take 1) := by
  obtain ⟨first, concluded⟩ := departure_ends_the_handler 1
    (Text.utf8 "get_hw\nget_sw\nget_relay\n") fun _ => ⟨none, 0, 0⟩
  refine ⟨first, fun moment reached => ?_⟩
  obtain ⟨failed, lines, accepted⟩ :=
    (concluded moment reached).lost (by decide +kernel) (by decide +kernel)
  refine ⟨failed, lines.trans ?_, accepted⟩
  decide +kernel

end Departure
end SerialShare
