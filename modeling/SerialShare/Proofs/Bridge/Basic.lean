import Mathlib.Logic.Function.Basic
import SerialShare.Connection.Channel
import SerialShare.Proofs.Poller.Advance
import SerialShare.Proofs.Poller.Publication
import SerialShare.Proofs.Snapshot.Store

/-!
# The whole bridge, one small step at a time

One poller, one store, and any number of connections, each with a reader of its own.  Everything
moves in small steps, and the steps may come in any order: the poller does the next thing that it
was asked for, a status is published by hand, a client connects or moves, a handler makes a step.

The history records what the poller did and published and what the handlers answered, in the order
in which it happened.  The steps of the poller alone carry out its calls.
-/

namespace SerialShare

/-- A client on the bridge. -/
structure Seat where
  /-- The reader that its handler looks at the store with. -/
  reader : Nat
  /-- Its connection. -/
  connection : Connection
  /-- What it has received. -/
  received : Bytes

namespace Seat

/-- What a client can do. -/
inductive Move where
  /-- Send what fits of some bytes. -/
  | offer (bytes : Bytes)
  /-- Receive at most a number of bytes. -/
  | collect (most : Nat)
  /-- Stop sending. -/
  | close
  /-- Go away. -/
  | vanish

/-- Make one move. -/
def move (seat : Seat) : Move → Seat
  | .offer bytes => { seat with connection := (seat.connection.offer bytes).2 }
  | .collect most =>
    { seat with
      connection := (seat.connection.collect most).2
      received := seat.received ++ (seat.connection.collect most).1 }
  | .close => { seat with connection := seat.connection.close }
  | .vanish => { seat with connection := seat.connection.vanish }

@[simp] theorem reader_move
    (seat : Seat)
    (move : Move) :
    (seat.move move).reader = seat.reader := by
  cases move <;> rfl

@[simp] theorem handler_move
    (seat : Seat)
    (move : Move) :
    (seat.move move).connection.handler = seat.connection.handler := by
  cases move with
  | offer bytes =>
      simp only [Seat.move, Connection.offer]
      split <;> rfl
  | collect most => rfl
  | close => rfl
  | vanish => rfl

end Seat

/-- A reply on its way to a client. -/
structure Answer where
  /-- The client's connection. -/
  key : Nat
  /-- What was asked. -/
  request : String
  /-- What was answered. -/
  reply : String
  /-- How many statuses had been published when the handler looked at the store. -/
  position : Nat
  deriving DecidableEq

/-- Something that happened on the bridge. -/
inductive Entry where
  /-- The poller did something on the link. -/
  | operated (operation : Poller.Operation)
  /-- A call of the poller came to its end. -/
  | called (ending : Poller.Ending (Outcome ⊕ Device.Response))
  /-- A status was published. -/
  | published (status : Status)
  /-- A request was answered. -/
  | answered (answer : Answer)

/-- Everything at work. -/
structure Bridge (State : Type) where
  /-- The state of the link. -/
  device : State
  /-- The time in milliseconds. -/
  now : Nat
  /-- Where statuses are published, and who reads them. -/
  store : Store
  /-- What the poller has still to do. -/
  pending : Option (Dialogue (Outcome ⊕ Device.Response))
  /-- The clients by the keys of their connections. -/
  seats : Nat → Option Seat
  /-- What has happened, in order. -/
  history : List Entry

namespace Bridge

variable {State : Type}

/-- A bridge on which nothing has happened. -/
def start (device : State) (now : Nat) : Bridge State :=
  { device
    now
    store := .new
    pending := none
    seats := fun _ => none
    history := [] }

/-- One small step of one side. -/
inductive Act where
  /-- The poller is called, unless it is at work. -/
  | ask (call : Poller.Call)
  /-- The poller does the next thing. -/
  | advance
  /-- A status is published by hand. -/
  | publish (status : Status)
  /-- A client connects with a key that is not in use. -/
  | connect (key capacity : Nat)
  /-- A client makes a move. -/
  | client (key : Nat) (move : Seat.Move)
  /-- A handler makes a step, receiving at most a number of bytes if it receives. -/
  | serve (key most : Nat)

/-- What a call asks the poller to do. -/
def asked (timing : Timing) : Poller.Call → Dialogue (Outcome ⊕ Device.Response)
  | .poll => (Poller.rotation timing).bind fun outcome => .done (.inl outcome)
  | .request command =>
    (Poller.request timing command).bind fun response => .done (.inr response)

/-- Take note of what the poller did. -/
def noted (advance : Poller.Advance State (Outcome ⊕ Device.Response)) : List Entry :=
  advance.operations.map .operated ++ advance.published.map .published ++
    match advance.remainder with
    | .more _ => []
    | .ended ending => [.called ending]

/-- What the poller has to do after a step. -/
def left (advance : Poller.Advance State (Outcome ⊕ Device.Response)) :
    Option (Dialogue (Outcome ⊕ Device.Response)) :=
  match advance.remainder with
  | .more next => some next
  | .ended _ => none

/-- The poller does the next thing of a dialogue. -/
def advance (link : Device.Link State) (clock : Poller.Clock) (bridge : Bridge State)
    (dialogue : Dialogue (Outcome ⊕ Device.Response)) : Bridge State :=
  let advance :=
    Poller.advance link clock ⟨bridge.device, bridge.now, bridge.store.board⟩ dialogue
  { bridge with
    device := advance.station.device
    now := advance.station.now
    store := { bridge.store with board := advance.station.board }
    pending := left advance
    history := bridge.history ++ noted advance }

/-- The answers that events tell of. -/
def answers (key position : Nat) (events : List Log.Event) : List Answer :=
  events.filterMap fun
    | .replying request reply => some ⟨key, request, reply, position⟩
    | _ => none

/-- All answers that one handler gives are for its own client. -/
theorem key_of_mem_answers
    {key position : Nat}
    {events : List Log.Event}
    {answer : Answer}
    (present : answer ∈ answers key position events) :
    answer.key = key := by
  obtain ⟨event, _, equal⟩ := List.mem_filterMap.mp present
  cases event <;> cases equal
  rfl

/-- Let a handler's reader go when the handler has ended. -/
def release (store : Store) (reader : Nat) (handler : Handler) : Store :=
  if handler.ending.isSome then (store.dropReader reader).toOption.getD store else store

/-- A handler makes a step, looking at the store with its own reader. -/
def serve (bridge : Bridge State) (key most : Nat) (seat : Seat) (snapshot : Snapshot) :
    Bridge State :=
  let (connection, events) := seat.connection.serve most snapshot
  { bridge with
    store := release bridge.store seat.reader connection.handler
    seats := Function.update bridge.seats key (some { seat with connection })
    history := bridge.history ++ (answers key bridge.store.board.published events).map .answered }

/-- Do one act. -/
def step (link : Device.Link State) (timing : Timing) (clock : Poller.Clock)
    (bridge : Bridge State) : Act → Bridge State
  | .ask call =>
    match bridge.pending with
    | some _ => bridge
    | none => { bridge with pending := some (asked timing call) }
  | .advance =>
    match bridge.pending with
    | some dialogue => bridge.advance link clock dialogue
    | none => bridge
  | .publish status =>
    match bridge.store.set status with
    | .ok store => { bridge with store, history := bridge.history ++ [.published status] }
    | .error _ => bridge
  | .connect key capacity =>
    match bridge.seats key, bridge.store.clone 0 with
    | none, .ok (reader, store) =>
      { bridge with
        store
        seats := Function.update bridge.seats key (some ⟨reader, .new capacity, []⟩) }
    | _, _ => bridge
  | .client key move =>
    match bridge.seats key with
    | some seat => { bridge with seats := Function.update bridge.seats key (some (seat.move move)) }
    | none => bridge
  | .serve key most =>
    match bridge.seats key with
    | some seat =>
      match bridge.store.get seat.reader with
      | .ok snapshot => bridge.serve key most seat snapshot
      | .error _ => bridge
    | none => bridge

/-- Do acts one after the other. -/
def run (link : Device.Link State) (timing : Timing) (clock : Poller.Clock)
    (bridge : Bridge State) (acts : List Act) : Bridge State :=
  acts.foldl (step link timing clock) bridge

/-! ## The poller on its own -/

/-- What was done on the link, as a history tells. -/
def operations (history : List Entry) : List Poller.Operation :=
  history.filterMap fun
    | .operated operation => some operation
    | _ => none

/-- What calls of the poller came to, as a history tells. -/
def endings (history : List Entry) : List (Poller.Ending (Outcome ⊕ Device.Response)) :=
  history.filterMap fun
    | .called ending => some ending
    | _ => none

theorem operations_append (earlier later : List Entry) :
    operations (earlier ++ later) = operations earlier ++ operations later :=
  List.filterMap_append

theorem endings_append (earlier later : List Entry) :
    endings (earlier ++ later) = endings earlier ++ endings later :=
  List.filterMap_append

theorem mem_endings_iff
    {ending : Poller.Ending (Outcome ⊕ Device.Response)}
    {history : List Entry} :
    ending ∈ endings history ↔ .called ending ∈ history := by
  rw [endings, List.mem_filterMap]
  constructor
  · rintro ⟨entry, present, equal⟩
    cases entry with
    | called other =>
        cases equal
        exact present
    | operated operation => cases equal
    | published status => cases equal
    | answered answer => cases equal
  · exact fun present => ⟨.called ending, present, rfl⟩

theorem operations_noted (advance : Poller.Advance State (Outcome ⊕ Device.Response)) :
    operations (noted advance) = advance.operations := by
  have ended : operations (match advance.remainder with
      | .more _ => []
      | .ended ending => [.called ending]) = [] := by
    cases advance.remainder <;> rfl
  rw [noted, operations_append, operations_append, ended, List.append_nil]
  simp [operations, List.filterMap_map]

theorem endings_noted (advance : Poller.Advance State (Outcome ⊕ Device.Response)) :
    endings (noted advance) =
      match advance.remainder with
      | .more _ => []
      | .ended ending => [ending] := by
  rw [noted, endings_append, endings_append]
  cases advance.remainder <;> simp [endings, List.filterMap_map]

/-- The steps of the poller alone carry a dialogue out. -/
def CarriedOut (link : Device.Link State) (timing : Timing) (clock : Poller.Clock)
    (dialogue : Dialogue (Outcome ⊕ Device.Response)) : Prop :=
  ∀ bridge : Bridge State, bridge.pending = some dialogue →
    ∃ steps,
      let played := Poller.play link clock ⟨bridge.device, bridge.now, bridge.store.board⟩ dialogue
      let final := bridge.run link timing clock (List.replicate steps .advance)
      final.pending = none ∧
        (⟨final.device, final.now, final.store.board⟩ : Poller.Station State) = played.station ∧
        operations final.history = operations bridge.history ++ played.operations ∧
        endings final.history = endings bridge.history ++ [played.ending]

theorem carriedOut_of_advance
    {link : Device.Link State}
    {timing : Timing}
    {clock : Poller.Clock}
    {dialogue : Dialogue (Outcome ⊕ Device.Response)}
    (rest : ∀ station next,
      (Poller.advance link clock station dialogue).remainder = .more next →
      CarriedOut link timing clock next) :
    CarriedOut link timing clock dialogue := by
  intro bridge pending
  have stepped : bridge.step link timing clock .advance = bridge.advance link clock dialogue := by
    simp only [step, pending]
  have played := Poller.play_eq_advance link clock ⟨bridge.device, bridge.now, bridge.store.board⟩
    dialogue
  cases left_ : (Poller.advance link clock ⟨bridge.device, bridge.now, bridge.store.board⟩
      dialogue).remainder with
  | ended ending =>
      rw [left_] at played
      refine ⟨1, ?_⟩
      simp only [run, List.replicate_one, List.foldl_cons, List.foldl_nil, stepped, played]
      simp only [advance, left, left_, operations_append, operations_noted, endings_append,
        endings_noted, and_self]
  | more next =>
      rw [left_] at played
      obtain ⟨steps, final⟩ := rest _ next left_ (bridge.advance link clock dialogue)
        (by simp only [advance, left, left_])
      refine ⟨steps + 1, ?_⟩
      simp only [run, List.replicate_succ, List.foldl_cons, stepped, played]
      obtain ⟨idle, station, operated, ended⟩ := final
      refine ⟨idle, station, ?_, ?_⟩
      · refine operated.trans ?_
        simp only [advance, operations_append, operations_noted, List.append_assoc]
        rfl
      · refine ended.trans ?_
        simp only [advance, endings_append, endings_noted, left_, List.append_nil]
        rfl

theorem carriedOut
    (link : Device.Link State)
    (timing : Timing)
    (clock : Poller.Clock)
    (dialogue : Dialogue (Outcome ⊕ Device.Response)) :
    CarriedOut link timing clock dialogue := by
  induction dialogue with
  | done result =>
      apply carriedOut_of_advance
      rintro station next ⟨⟩
  | wait milliseconds next inductionHypothesis =>
      apply carriedOut_of_advance
      intro station rest more
      simp only [Poller.advance] at more
      split at more
      · cases more
        exact inductionHypothesis
      · split at more
        · cases more
        · cases more
          exact inductionHypothesis
  | send bytes next inductionHypothesis =>
      apply carriedOut_of_advance
      intro station rest more
      simp only [Poller.advance] at more
      split at more
      · cases more
        exact inductionHypothesis
      · cases more
  | collect next inductionHypothesis =>
      apply carriedOut_of_advance
      intro station rest more
      simp only [Poller.advance] at more
      split at more
      · cases more
        exact inductionHypothesis _
      · cases more
  | publish status next inductionHypothesis =>
      apply carriedOut_of_advance
      rintro station rest ⟨⟩
      exact inductionHypothesis
  | record event next inductionHypothesis =>
      apply carriedOut_of_advance
      rintro station rest ⟨⟩
      exact inductionHypothesis

/-- Only the result of a dialogue becomes another one. -/
theorem play_bind_done
    {Result Final : Type}
    (link : Device.Link State)
    (clock : Poller.Clock)
    (station : Poller.Station State)
    (dialogue : Dialogue Result)
    (wrap : Result → Final) :
    let played := Poller.play link clock station (dialogue.bind fun result => .done (wrap result))
    played.station = (Poller.play link clock station dialogue).station ∧
      played.operations = (Poller.play link clock station dialogue).operations := by
  intro played
  simp only [played, Poller.play_bind, Poller.Played.andThen]
  cases (Poller.play link clock station dialogue).ending with
  | finished result =>
      refine ⟨rfl, ?_⟩
      exact List.append_nil _
  | failed fault => exact ⟨rfl, rfl⟩
  | interrupted => exact ⟨rfl, rfl⟩

/-- Where nothing happens in between, the poller carries out a call as a whole. -/
theorem exists_steps_of_call
    (link : Device.Link State)
    (timing : Timing)
    (clock : Poller.Clock)
    (bridge : Bridge State)
    (idle : bridge.pending = none)
    (call : Poller.Call) :
    ∃ steps,
      let final := bridge.run link timing clock (.ask call :: List.replicate steps .advance)
      let whole := Poller.call link timing clock ⟨bridge.device, bridge.now, bridge.store.board⟩ call
      final.pending = none ∧
        (⟨final.device, final.now, final.store.board⟩ : Poller.Station State) = whole.1 ∧
        operations final.history = operations bridge.history ++ whole.2.operations := by
  have stepped : bridge.step link timing clock (.ask call) =
      { bridge with pending := some (asked timing call) } := by
    simp only [step, idle]
  obtain ⟨steps, done, station, operated, _⟩ := carriedOut link timing clock (asked timing call)
    { bridge with pending := some (asked timing call) } rfl
  refine ⟨steps, ?_⟩
  simp only [run, List.foldl_cons, stepped]
  cases call with
  | poll =>
      obtain ⟨sameStation, sameOperations⟩ := play_bind_done link clock
        ⟨bridge.device, bridge.now, bridge.store.board⟩ (Poller.rotation timing)
        (Sum.inl : Outcome → Outcome ⊕ Device.Response)
      exact ⟨done, station.trans sameStation,
        operated.trans (congrArg (operations bridge.history ++ ·) sameOperations)⟩
  | request command =>
      obtain ⟨sameStation, sameOperations⟩ := play_bind_done link clock
        ⟨bridge.device, bridge.now, bridge.store.board⟩ (Poller.request timing command)
        (Sum.inr : Device.Response → Outcome ⊕ Device.Response)
      exact ⟨done, station.trans sameStation,
        operated.trans (congrArg (operations bridge.history ++ ·) sameOperations)⟩

end Bridge
end SerialShare
