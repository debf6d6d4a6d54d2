import Mathlib.Data.Prod.Lex
import Mathlib.Order.WellFounded
import SerialShare.Proofs.Connection.Conversation

/-!
# Conversations come to an end

Every act either leaves an exchange as it was, but for the board and the room on the transport, or
makes its `work` less.  Work is counted in two numbers, the first of which weighs more: what is left
to read, and what is left to deliver.  While an exchange is not settled, one of the two sides can
make the work less, and goes on to be able to until something does.  So a schedule that gives every
side its turn again and again settles the exchange for good.
-/

namespace SerialShare

/-! ## Work -/

namespace Handler

/-- What a handler has left to read. -/
def toRead (handler : Handler) : Nat :=
  match handler.ending with
  | some _ => 0
  | none =>
    handler.buffer.length + handler.looking.toNat + 2 * (!handler.inputEnded).toNat + 1

theorem toRead_of_running
    {handler : Handler}
    (running : handler.ending = none) :
    handler.toRead =
      handler.buffer.length + handler.looking.toNat + 2 * (!handler.inputEnded).toNat + 1 := by
  simp only [toRead, running]

theorem toRead_of_ended
    {handler : Handler}
    {result : Except IoFault Unit}
    (ended : handler.ending = some result) :
    handler.toRead = 0 := by
  simp only [toRead, ended]

/-- Looking takes a line, gives up, or finds that there is nothing to look for. -/
theorem Follows.toRead_look_lt
    {handler : Handler}
    {arrived : Bytes}
    {lines : List String}
    (follows : handler.Follows arrived lines)
    (running : handler.ending = none)
    (looks : handler.looking = true)
    (snapshot : Snapshot) :
    (handler.look snapshot).1.toRead < handler.toRead := by
  have faithful := follows.ready.faithful
  rw [toRead_of_running running, looks]
  cases result : handler.found.result with
  | overflow => exact absurd result faithful.answered
  | refused fault =>
      rw [look_of_refusal result, toRead_of_ended rfl]
      exact Nat.succ_pos _
  | line request =>
      have shorter := (faithful.line request result).1
      rw [look_of_line result]
      simp only [toRead, running, looks]
      omega
  | nothing =>
      have same := (faithful.nothing result).1
      rw [look_of_nothing result]
      cases ended : handler.inputEnded with
      | true =>
          rw [toRead_of_ended rfl]
          exact Nat.succ_pos _
      | false =>
          simp [toRead, running, same]

end Handler

namespace Exchange

open Lines (reading)

/-- What is left to read: bytes count for more the earlier they are on their way. -/
def toRead (exchange : Exchange) : Nat :=
  5 * exchange.unsent.length + 3 * exchange.connection.requests.length +
    (!exchange.connection.clientDone).toNat + exchange.connection.handler.toRead

/-- What is left to deliver. -/
def toDeliver (exchange : Exchange) : Nat :=
  2 * exchange.connection.handler.outgoing.length + exchange.connection.replies.length

/-- What is left to do. -/
def work (exchange : Exchange) : Nat ×ₗ Nat :=
  toLex (exchange.toRead, exchange.toDeliver)

theorem work_lt_work_iff (later earlier : Exchange) :
    later.work < earlier.work ↔
      later.toRead < earlier.toRead ∨
        later.toRead = earlier.toRead ∧ later.toDeliver < earlier.toDeliver :=
  Prod.Lex.toLex_lt_toLex

/-- Nothing has moved from one exchange to the other. -/
structure Still (earlier later : Exchange) : Prop where
  /-- The client has sent nothing. -/
  unsent_eq : later.unsent = earlier.unsent
  /-- Only the room on the transport may be another. -/
  connection_eq :
    later.connection = { earlier.connection with capacity := later.connection.capacity }

theorem Still.refl (exchange : Exchange) : exchange.Still exchange := ⟨rfl, rfl⟩

theorem Still.trans
    {first second third : Exchange}
    (earlier : first.Still second)
    (later : second.Still third) :
    first.Still third := by
  refine ⟨later.unsent_eq.trans earlier.unsent_eq, ?_⟩
  rw [later.connection_eq, earlier.connection_eq]

theorem Still.work_eq
    {earlier later : Exchange}
    (still : earlier.Still later) :
    later.work = earlier.work := by
  unfold work toRead toDeliver
  rw [still.unsent_eq, still.connection_eq]

theorem Still.settled
    {earlier later : Exchange}
    (still : earlier.Still later)
    (settled : earlier.Settled) :
    later.Settled := by
  unfold Settled
  rw [still.unsent_eq, still.connection_eq]
  exact settled

/-! ## What every act does to it -/

theorem offer_lt_or_still
    (exchange : Exchange)
    (more : Nat) :
    (exchange.step (.offer more)).work < exchange.work ∨
      exchange.Still (exchange.step (.offer more)) ∧
        (exchange.unsent = [] ∨ exchange.connection.open? = false ∨
          exchange.connection.capacity ≤ exchange.connection.requests.length) := by
  obtain ⟨connection, board, unsent, received, answered⟩ := exchange
  simp only [step, Connection.offer]
  split
  · generalize counted : min (unsent.take (more + 1)).length
      (connection.capacity - connection.requests.length) = count
    rw [List.length_take] at counted
    cases count with
    | zero =>
        right
        refine ⟨⟨rfl, ?_⟩, ?_⟩
        · simp
        · rw [← List.length_eq_zero_iff]
          omega
    | succ count =>
        left
        rw [work_lt_work_iff]
        left
        simp only [toRead, List.length_drop, List.length_append, List.length_take]
        omega
  · rename_i closed
    right
    exact ⟨⟨rfl, rfl⟩, Or.inr (Or.inl (Bool.eq_false_iff.mpr closed))⟩

theorem collect_lt_or_still
    (exchange : Exchange)
    (more : Nat) :
    (exchange.step (.collect more)).work < exchange.work ∨
      exchange.Still (exchange.step (.collect more)) ∧ exchange.connection.replies = [] := by
  cases replies : exchange.connection.replies with
  | nil =>
      right
      refine ⟨⟨rfl, ?_⟩, rfl⟩
      simp only [step, Connection.collect, replies, List.drop_nil]
  | cons byte bytes =>
      left
      rw [work_lt_work_iff]
      right
      refine ⟨rfl, ?_⟩
      simp only [step, Connection.collect, toDeliver, replies, List.length_drop, List.length_cons]
      omega

theorem finish_lt_or_still (exchange : Exchange) :
    (exchange.step .finish).work < exchange.work ∨
      exchange.Still (exchange.step .finish) := by
  simp only [step]
  split
  · cases done : exchange.connection.clientDone with
    | true =>
        right
        refine ⟨rfl, ?_⟩
        rw [Connection.close, ← done]
    | false =>
        left
        rw [work_lt_work_iff]
        left
        simp only [toRead, Connection.close, done, Bool.not_true, Bool.not_false,
          Bool.toNat_true, Bool.toNat_false]
        omega
  · right
    exact .refl exchange

/-- A step of the handler gets something done, unless the handler has to wait. -/
theorem serve_lt_or_still
    {exchange : Exchange}
    {bytes : Bytes}
    (sound : exchange.Sound bytes)
    (more : Nat) :
    (exchange.step (.serve more)).work < exchange.work ∨
      exchange.Still (exchange.step (.serve more)) ∧ exchange.connection.isIdle := by
  obtain ⟨connection, board, unsent, received, answered⟩ := exchange
  obtain ⟨⟨sent, _, carries : connection.Carries sent received answered⟩, _⟩ := sound
  obtain ⟨arrived, _, follows⟩ := carries.arrived
  have course := connection.serving (more + 1) board.latest
  simp only [step]
  generalize connection.serve (more + 1) board.latest = result at course ⊢
  cases course with
  | finished ended =>
      right
      refine ⟨⟨rfl, rfl⟩, ?_⟩
      simp [Connection.isIdle, Handler.phase, ended]
  | lost running pending gone =>
      rw [carries.present] at gone
      cases gone
  | replied running pending present count fits =>
      have some := List.length_pos_iff.mpr pending
      cases count with
      | zero =>
          right
          refine ⟨⟨rfl, ?_⟩, ?_⟩
          · simp [Handler.sent]
          · have full : connection.capacity ≤ connection.replies.length := by omega
            simp [Connection.isIdle, Handler.phase, running, pending, present, full]
      | succ count =>
          left
          rw [work_lt_work_iff]
          right
          refine ⟨rfl, ?_⟩
          simp only [toDeliver, Handler.sent, List.length_append, List.length_take,
            List.length_drop]
          omega
  | looked running clear looks =>
      left
      rw [work_lt_work_iff]
      left
      have less := follows.toRead_look_lt running looks board.latest
      simp only [toRead]
      omega
  | received running clear idle pending =>
      have some := List.length_pos_iff.mpr pending
      left
      rw [work_lt_work_iff]
      left
      simp only [toRead, Handler.toRead, Handler.receive, running, idle, List.length_append,
        List.length_take, List.length_drop, Bool.toNat_true, Bool.toNat_false]
      omega
  | learned running clear idle drained stopped =>
      have unfinished := (follows.waiting running idle).1
      left
      rw [work_lt_work_iff]
      left
      simp only [toRead, Handler.toRead, Handler.finishInput, running, idle, unfinished,
        Bool.toNat_true, Bool.toNat_false, Bool.not_true, Bool.not_false]
      omega
  | waited running clear idle drained unfinished present =>
      right
      refine ⟨⟨rfl, rfl⟩, ?_⟩
      simp [Connection.isIdle, Handler.phase, running, clear, idle, drained, unfinished, present]

theorem cases_of_isIdle
    {connection : Connection}
    (idle : connection.isIdle) :
    connection.handler.ending ≠ none ∨ connection.capacity ≤ connection.replies.length ∨
      connection.handler.outgoing = [] ∧ connection.handler.looking = false ∧
        connection.requests = [] ∧ connection.clientDone = false := by
  obtain ⟨capacity, requests, replies, done, gone, handler⟩ := connection
  obtain ⟨splitter, buffer, looking, inputEnded, outgoing, ending⟩ := handler
  cases ending with
  | some result => simp
  | none =>
      cases outgoing with
      | cons byte bytes =>
          simp only [Connection.isIdle, Handler.phase] at idle
          simp_all
      | nil =>
          cases looking with
          | true => cases idle
          | false =>
              simp only [Connection.isIdle, Handler.phase] at idle
              simp_all

/-- No act makes more work. -/
theorem Sound.step_lt_or_still
    {exchange : Exchange}
    {bytes : Bytes}
    (sound : exchange.Sound bytes)
    (act : Act) :
    (exchange.step act).work < exchange.work ∨ exchange.Still (exchange.step act) := by
  cases act with
  | publish status => exact Or.inr ⟨rfl, rfl⟩
  | resize capacity => exact Or.inr ⟨rfl, rfl⟩
  | offer more => exact (offer_lt_or_still exchange more).imp_right And.left
  | finish => exact finish_lt_or_still exchange
  | collect more => exact (collect_lt_or_still exchange more).imp_right And.left
  | serve more => exact (serve_lt_or_still sound more).imp_right And.left

/-! ## Whose turn it is -/

/-- While an exchange is not settled, there is a kind of act that makes the work less, as long as
nothing moves. -/
theorem exists_progress
    {exchange : Exchange}
    (unsettled : ¬exchange.Settled) :
    ∃ kind : Nat → Act, (kind = .offer ∨ kind = .collect ∨ kind = .serve) ∧
      ∀ later bytes more, exchange.Still later → later.Sound bytes →
        0 < later.connection.capacity → (later.step (kind more)).work < later.work := by
  by_cases undelivered : exchange.connection.replies = []
  · have running : exchange.connection.handler.ending = none := by
      by_contra ended
      exact unsettled ⟨undelivered, Or.inl ended⟩
    by_cases waiting : exchange.connection.handler.outgoing = [] ∧
        exchange.connection.handler.looking = false ∧
        exchange.connection.requests = [] ∧ exchange.connection.clientDone = false
    · obtain ⟨clear, idle, drained, unfinished⟩ := waiting
      have unsent : exchange.unsent ≠ [] := by
        intro sentAll
        exact unsettled ⟨undelivered, Or.inr ⟨clear, idle, drained, sentAll, unfinished⟩⟩
      refine ⟨.offer, Or.inl rfl, fun later bytes more still sound positive => ?_⟩
      obtain ⟨sent, _, carries⟩ := sound.carries
      have present := carries.present
      apply (offer_lt_or_still later more).resolve_right
      rintro ⟨_, sentAll | closed | full⟩
      · rw [still.unsent_eq] at sentAll
        exact unsent sentAll
      · rw [Connection.open?, present, still.connection_eq] at closed
        simp [unfinished, running] at closed
      · rw [still.connection_eq, drained] at full
        exact Nat.not_lt.mpr full positive
    · refine ⟨.serve, Or.inr (Or.inr rfl), fun later bytes more still sound positive => ?_⟩
      apply (serve_lt_or_still sound more).resolve_right
      rintro ⟨_, idle⟩
      have reason := cases_of_isIdle idle
      rw [still.connection_eq] at reason
      obtain ended | full | waits := reason
      · exact ended running
      · rw [undelivered] at full
        exact Nat.not_lt.mpr full positive
      · exact waiting waits
  · refine ⟨.collect, Or.inr (Or.inl rfl), fun later bytes more still _ _ => ?_⟩
    apply (collect_lt_or_still later more).resolve_right
    rintro ⟨_, delivered⟩
    rw [still.connection_eq] at delivered
    exact undelivered delivered

/-! ## Fair schedules -/

/-- Only one kind of act changes the room on the transport. -/
theorem capacity_step
    (exchange : Exchange)
    (act : Act) :
    (exchange.step act).connection.capacity =
      match act with
      | .resize capacity => capacity
      | _ => exchange.connection.capacity := by
  cases act with
  | publish status => rfl
  | resize capacity => rfl
  | offer more =>
      simp only [step, Connection.offer]
      split <;> rfl
  | finish =>
      simp only [step]
      split <;> rfl
  | collect more => rfl
  | serve more => exact (exchange.connection.serve_frame _ _).1

/-- A kind of act comes again and again. -/
def Recurs (schedule : Nat → Act) (kind : Nat → Act) : Prop :=
  ∀ moment, ∃ later, moment ≤ later ∧ ∃ more, schedule later = kind more

/-- The transport can always carry something, the client goes on sending and receiving, and the
handler goes on making steps. -/
structure Fair (schedule : Nat → Act) : Prop where
  /-- The transport can always carry something. -/
  carries : ∀ moment, schedule moment ≠ .resize 0
  /-- The client goes on sending. -/
  offers : Recurs schedule .offer
  /-- The client goes on receiving. -/
  collects : Recurs schedule .collect
  /-- The handler goes on making steps. -/
  serves : Recurs schedule .serve

section Schedule

variable {capacity : Nat} {bytes : Bytes} {schedule : Nat → Act}

theorem capacity_pos_after
    (positive : 0 < capacity)
    (fair : Fair schedule)
    (moment : Nat) :
    0 < ((start capacity bytes).after schedule moment).connection.capacity := by
  induction moment with
  | zero => exact positive
  | succ moment inductionHypothesis =>
      rw [after, capacity_step]
      cases act : schedule moment with
      | resize room =>
          refine Nat.pos_of_ne_zero ?_
          rintro rfl
          exact fair.carries moment act
      | publish status => exact inductionHypothesis
      | offer more => exact inductionHypothesis
      | finish => exact inductionHypothesis
      | collect more => exact inductionHypothesis
      | serve more => exact inductionHypothesis

/-- A fair schedule settles an exchange for good. -/
theorem eventually_settled
    (positive : 0 < capacity)
    (fair : Fair schedule) :
    ∃ first, ∀ moment, first ≤ moment →
      ((start capacity bytes).after schedule moment).Settled := by
  -- At some moment of the run the work is least.  From then on nothing moves any more.
  have wellFounded : WellFounded ((· < ·) : Nat ×ₗ Nat → Nat ×ₗ Nat → Prop) := wellFounded_lt
  obtain ⟨least, ⟨first, rfl⟩, minimal⟩ := wellFounded.has_min
    (Set.range fun moment => ((start capacity bytes).after schedule moment).work) ⟨_, 0, rfl⟩
  have still : ∀ moment, first ≤ moment → ((start capacity bytes).after schedule first).Still
      ((start capacity bytes).after schedule moment) := by
    intro moment reached
    induction moment, reached using Nat.le_induction with
    | base => exact .refl _
    | succ moment reached inductionHypothesis =>
        have sound := sound_after capacity bytes schedule moment
        obtain less | unmoved := sound.step_lt_or_still (schedule moment)
        · rw [inductionHypothesis.work_eq] at less
          exact absurd less (minimal _ ⟨moment + 1, rfl⟩)
        · exact inductionHypothesis.trans unmoved
  refine ⟨first, fun moment reached => (still moment reached).settled ?_⟩
  -- If something could move, its turn would come, and the work would not have been the least.
  by_contra unsettled
  obtain ⟨kind, kinds, progress⟩ := exists_progress unsettled
  have recurs : Recurs schedule kind := by
    obtain rfl | rfl | rfl := kinds
    · exact fair.offers
    · exact fair.collects
    · exact fair.serves
  obtain ⟨moment, reached, more, act⟩ := recurs first
  have less := progress _ bytes more (still moment reached)
    (sound_after capacity bytes schedule moment) (capacity_pos_after positive fair moment)
  rw [← act, (still moment reached).work_eq] at less
  exact minimal _ ⟨moment + 1, rfl⟩ less

end Schedule

/-! ## Conversations -/

/-- However the bytes of a client travel and whenever statuses are published, the lines that its
handler answers are the first lines of what the client sends, each is answered once and from the
last status published before, and the client receives these replies in order.  Once both sides have
had their turns, no line before the first one over the limit is left without its reply, and the
handler has ended as the byte string says. -/
theorem every_line_is_answered
    (capacity : Nat)
    (bytes : Bytes)
    (schedule : Nat → Act) :
    (∀ moment,
      ((start capacity bytes).after schedule moment).Accounted bytes ∧
        ∃ requests : List String,
          ((start capacity bytes).after schedule (moment + 1)).answered =
            ((start capacity bytes).after schedule moment).answered ++
              requests.map fun request => (request, (published schedule moment).getLast?)) ∧
      (0 < capacity → Fair schedule →
        ∃ first, ∀ moment, first ≤ moment →
          ((start capacity bytes).after schedule moment).Complete bytes) := by
  refine ⟨fun moment => ?_, fun positive fair => ?_⟩
  · exact ⟨(sound_after capacity bytes schedule moment).accounted,
      answered_after_succ capacity bytes schedule moment⟩
  · obtain ⟨first, settled⟩ := eventually_settled positive fair
    refine ⟨first, fun moment reached => ?_⟩
    exact (sound_after capacity bytes schedule moment).complete (settled moment reached)

/-- A status is published.  Then both sides take turns, and few bytes move at a time. -/
def turns (status : Status) : Nat → Act
  | 0 => .publish status
  | moment + 1 =>
    match moment % 3 with
    | 0 => .offer 1
    | 1 => .serve 0
    | _ => .collect 2

theorem fair_turns (status : Status) : Fair (turns status) := by
  refine ⟨?_, ?_, ?_, ?_⟩
  · intro moment
    unfold turns
    split
    · rintro ⟨⟩
    · split <;> rintro ⟨⟩
  · intro moment
    exact ⟨3 * moment + 1, by omega, 1, by simp [turns]⟩
  · intro moment
    exact ⟨3 * moment + 3, by omega, 2, by simp [turns]⟩
  · intro moment
    exact ⟨3 * moment + 2, by omega, 0, by simp [turns]⟩

theorem published_turns
    (status : Status)
    (moment : Nat) :
    published (turns status) (moment + 1) = [status] := by
  induction moment with
  | zero => rfl
  | succ moment inductionHypothesis =>
      rw [published, inductionHypothesis, turns]
      split
      · rename_i act
        split at act <;> cases act
      · rfl

/-- Every line is answered from the one status that was published. -/
theorem answered_turns
    (capacity : Nat)
    (bytes : Bytes)
    (status : Status)
    (moment : Nat) :
    ((start capacity bytes).after (turns status) moment).answered =
      ((start capacity bytes).after (turns status) moment).lines.map fun line =>
        (line, some status) := by
  rw [lines, List.map_map]
  refine (List.map_id _).symm.trans (List.map_congr_left fun entry listed => ?_)
  obtain ⟨earlier, _, ⟨more, serves⟩, found⟩ := exists_serve_of_mem_answered listed
  cases earlier with
  | zero => cases serves
  | succ earlier =>
      rw [published_turns] at found
      exact Prod.ext rfl found

/-- Two lines, one of them with a carriage return, are answered over a narrow transport. -/
theorem every_line_is_answered_over_three_bytes :
    0 < 3 ∧ Fair (turns .example) ∧
      ∃ first, ∀ moment, first ≤ moment →
        let exchange := (start 3 (Text.utf8 "get_hw\r\nhi\n")).after (turns .example) moment
        exchange.lines = ["get_hw", "hi"] ∧
          exchange.received = Text.utf8 ("18\n('get_hw', 'get_sw', 'get_self_temp', " ++
            "'get_relay', 'get_optical_relay', 'get_dry_contact')\n") := by
  refine ⟨by decide, fair_turns .example, ?_⟩
  obtain ⟨first, complete⟩ :=
    (every_line_is_answered 3 (Text.utf8 "get_hw\r\nhi\n") (turns .example)).2 (by decide)
      (fair_turns .example)
  refine ⟨first, fun moment reached => ?_⟩
  obtain ⟨received, refusal, read, _⟩ := complete moment reached
  have whole : ∀ ended, reading 1024 ended (Text.utf8 "get_hw\r\nhi\n") =
      ⟨["get_hw", "hi"], none⟩ := by
    decide +kernel
  rw [whole] at read
  obtain ⟨lines, _⟩ := Lines.Transcript.mk.inj read
  refine ⟨lines.symm, ?_⟩
  rw [received, answered_turns, ← lines]
  decide +kernel

end Exchange
end SerialShare
