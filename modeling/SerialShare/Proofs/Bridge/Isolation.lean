import SerialShare.Proofs.Bridge.Order

/-!
# Clients do not disturb each other

Some connections are taken out of a run, with everything that their clients and handlers do.  What
the poller does, what is published and what the other clients get stays as it was.

Two bridges are `Alike` when they agree on everything but the connections taken out, the answers on
them, and the numbers of readers.  Every step of what stays keeps this, because a handler at work
has a reader of its own and every reader sees the board; and a step of what is taken out touches
nothing that is compared.
-/

namespace SerialShare

/-! ## Taking connections out -/

/-- What there is of a client but the number of its reader: its connection, and what it has
received. -/
def Seat.side (seat : Seat) : Connection × Bytes :=
  (seat.connection, seat.received)

/-- Whether an entry stays when connections are taken out. -/
def Entry.stays (removed : Nat → Bool) : Entry → Bool
  | .answered answer => !removed answer.key
  | _ => true

namespace Bridge

variable {State : Type}

/-- The connection that an act is about, if it is about one. -/
def Act.key? : Act → Option Nat
  | .connect key _ => some key
  | .client key _ => some key
  | .serve key _ => some key
  | _ => none

/-- Whether an act stays when connections are taken out. -/
def Act.stays (removed : Nat → Bool) (act : Act) : Bool :=
  match act.key? with
  | some key => !removed key
  | none => true

/-- The acts of a run, each with the snapshot at that point. -/
def observed (link : Device.Link State) (timing : Timing) (clock : Poller.Clock) :
    Bridge State → List Act → List (Act × Snapshot)
  | _, [] => []
  | bridge, act :: later =>
    (act, bridge.store.board.latest) ::
      observed link timing clock (bridge.step link timing clock act) later

/-! ## Bridges that are alike -/

/-- Two bridges agree on everything but connections that are taken out, the answers on them, and the
numbers of readers. -/
structure Alike (removed : Nat → Bool) (bridge other : Bridge State) : Prop where
  /-- The links are in the same state. -/
  device : bridge.device = other.device
  /-- It is the same time. -/
  now : bridge.now = other.now
  /-- The same is published. -/
  board : bridge.store.board = other.store.board
  /-- Statuses can be published on both or on none. -/
  hasWriter : bridge.store.hasWriter = other.store.hasWriter
  /-- The poller has the same to do. -/
  pending : bridge.pending = other.pending
  /-- The clients that stay are where they are. -/
  seats : ∀ key, removed key = false →
    (bridge.seats key).map Seat.side = (other.seats key).map Seat.side
  /-- The same has happened. -/
  history : bridge.history.filter (Entry.stays removed) =
    other.history.filter (Entry.stays removed)

variable {removed : Nat → Bool} {bridge other : Bridge State}

theorem Alike.refl (bridge : Bridge State) : Alike removed bridge bridge :=
  ⟨rfl, rfl, rfl, rfl, rfl, fun _ _ => rfl, rfl⟩

theorem Alike.symm (alike : Alike removed bridge other) : Alike removed other bridge :=
  ⟨alike.device.symm, alike.now.symm, alike.board.symm, alike.hasWriter.symm, alike.pending.symm,
    fun key stays => (alike.seats key stays).symm, alike.history.symm⟩

theorem Alike.trans
    {third : Bridge State}
    (alike : Alike removed bridge other)
    (next : Alike removed other third) :
    Alike removed bridge third :=
  ⟨alike.device.trans next.device, alike.now.trans next.now, alike.board.trans next.board,
    alike.hasWriter.trans next.hasWriter, alike.pending.trans next.pending,
    fun key stays => (alike.seats key stays).trans (next.seats key stays),
    alike.history.trans next.history⟩

/-- A client that stays has its place on both. -/
theorem Alike.exists_seat
    (alike : Alike removed bridge other)
    {key : Nat}
    (stays : removed key = false)
    {seat : Seat}
    (found : bridge.seats key = some seat) :
    ∃ neighbour, other.seats key = some neighbour ∧ neighbour.side = seat.side := by
  have same := alike.seats key stays
  rw [found, Option.map_some] at same
  exact Option.map_eq_some_iff.mp same.symm

theorem Alike.free
    (alike : Alike removed bridge other)
    {key : Nat}
    (stays : removed key = false)
    (free : bridge.seats key = none) :
    other.seats key = none := by
  have same := alike.seats key stays
  rw [free, Option.map_none] at same
  exact Option.map_eq_none_iff.mp same.symm

/-- Changing the same client's place in the same way keeps all places that stay. -/
theorem side_update
    {seats places : Nat → Option Seat}
    (same : ∀ key, removed key = false → (seats key).map Seat.side = (places key).map Seat.side)
    {seat place : Seat}
    (changed : removed key = false → seat.side = place.side) :
    ∀ other, removed other = false →
      (Function.update seats key (some seat) other).map Seat.side =
        (Function.update places key (some place) other).map Seat.side := by
  intro other stays
  by_cases here : other = key
  · subst here
    rw [Function.update_self, Function.update_self, Option.map_some, Option.map_some,
      changed stays]
  · rw [Function.update_of_ne here, Function.update_of_ne here]
    exact same other stays

theorem hasWriter_release
    (store : Store)
    (reader : Nat)
    (handler : Handler) :
    (release store reader handler).hasWriter = store.hasWriter := by
  unfold release
  split
  · cases dropped : store.dropReader reader with
    | error refusal => rfl
    | ok after => exact Store.hasWriter_dropReader dropped
  · rfl

/-! ## Steps that stay -/

theorem Alike.advance
    (alike : Alike removed bridge other)
    (link : Device.Link State)
    (clock : Poller.Clock)
    (dialogue : Dialogue (Outcome ⊕ Device.Response)) :
    Alike removed (bridge.advance link clock dialogue) (other.advance link clock dialogue) := by
  have station : (⟨bridge.device, bridge.now, bridge.store.board⟩ : Poller.Station State) =
      ⟨other.device, other.now, other.store.board⟩ := by
    rw [alike.device, alike.now, alike.board]
  unfold Bridge.advance
  rw [station]
  refine ⟨rfl, rfl, rfl, alike.hasWriter, rfl, alike.seats, ?_⟩
  simp only [List.filter_append, alike.history]

/-- A status is published on both or, without a writer, on none. -/
theorem Alike.publish
    (alike : Alike removed bridge other)
    (link : Device.Link State)
    (timing : Timing)
    (clock : Poller.Clock)
    (status : Status) :
    Alike removed (bridge.step link timing clock (.publish status))
      (other.step link timing clock (.publish status)) := by
  simp only [Bridge.step, Store.set, ← alike.hasWriter]
  cases writer : bridge.store.hasWriter with
  | false =>
      simp only [Bool.false_eq_true, if_false]
      exact alike
  | true =>
      simp only [if_true]
      refine ⟨alike.device, alike.now, ?_, rfl, alike.pending, alike.seats, ?_⟩
      · exact congrArg (Board.publish · status) alike.board
      · simp only [List.filter_append, alike.history]

theorem Alike.connect
    (alike : Alike removed bridge other)
    {key reader place : Nat}
    {store otherStore : Store}
    (cloned : bridge.store.clone 0 = .ok (reader, store))
    (otherCloned : other.store.clone 0 = .ok (place, otherStore))
    (capacity : Nat) :
    Alike removed
      { bridge with
        store
        seats := Function.update bridge.seats key (some ⟨reader, .new capacity, []⟩) }
      { other with
        store := otherStore
        seats := Function.update other.seats key (some ⟨place, .new capacity, []⟩) } := by
  refine ⟨alike.device, alike.now, ?_, ?_, alike.pending, ?_, alike.history⟩
  · rw [(Store.clone_spec cloned).1, (Store.clone_spec otherCloned).1]
    exact alike.board
  · rw [Store.hasWriter_clone cloned, Store.hasWriter_clone otherCloned]
    exact alike.hasWriter
  · exact side_update alike.seats fun _ => rfl

/-- A client makes its move on its own connection. -/
theorem side_move
    {seat neighbour : Seat}
    (same : neighbour.side = seat.side)
    (move : Seat.Move) :
    (seat.move move).side = (neighbour.move move).side := by
  obtain ⟨reader, connection, received⟩ := seat
  obtain ⟨place, _, _⟩ := neighbour
  cases same
  cases move <;> rfl

/-- A handler makes its step on its own connection and with what all readers see. -/
theorem Alike.serve
    (alike : Alike removed bridge other)
    {seat neighbour : Seat}
    (same : neighbour.side = seat.side)
    (key most : Nat)
    (snapshot : Snapshot) :
    Alike removed (bridge.serve key most seat snapshot)
      (other.serve key most neighbour snapshot) := by
  have connection : neighbour.connection = seat.connection := congrArg Prod.fst same
  have received : neighbour.received = seat.received := congrArg Prod.snd same
  unfold Bridge.serve
  rw [connection]
  refine ⟨alike.device, alike.now, ?_, ?_, alike.pending, ?_, ?_⟩
  · simp only [board_release]
    exact alike.board
  · simp only [hasWriter_release]
    exact alike.hasWriter
  · apply side_update alike.seats
    intro _
    simp only [Seat.side, received]
  · simp only [List.filter_append, alike.history, alike.board]

/-- Where a handler has ended, its steps change nothing that is compared. -/
theorem alike_serve_of_ended
    {key : Nat}
    {seat : Seat}
    (found : bridge.seats key = some seat)
    (ended : seat.connection.handler.ending.isSome)
    (most : Nat)
    (snapshot : Snapshot) :
    Alike removed (bridge.serve key most seat snapshot) bridge := by
  have kept : Function.update bridge.seats key (some seat) = bridge.seats := by
    rw [← found]
    exact Function.update_eq_self key bridge.seats
  unfold Bridge.serve
  rw [Connection.serve_of_ended ended]
  refine ⟨rfl, rfl, board_release _ _ _, hasWriter_release _ _ _, rfl, ?_, ?_⟩
  · intro other _
    exact congrArg (fun seats => (seats other).map Seat.side) kept
  · simp only [answers, List.filterMap_nil, List.map_nil, List.append_nil]

/-- Either a handler is at work and sees the board, or its steps change nothing that is compared. -/
theorem Linked.serves
    (linked : bridge.Linked)
    (removed : Nat → Bool)
    (link : Device.Link State)
    (timing : Timing)
    (clock : Poller.Clock)
    {key : Nat}
    {seat : Seat}
    (found : bridge.seats key = some seat)
    (most : Nat) :
    Alike removed (bridge.step link timing clock (.serve key most))
      (bridge.serve key most seat bridge.store.board.latest) := by
  simp only [Bridge.step, found]
  cases ending : seat.connection.handler.ending with
  | none =>
      rw [Store.get_of_present (linked.attended.present key seat found ending)]
      exact .refl _
  | some result =>
      have ended : seat.connection.handler.ending.isSome := by
        rw [ending]
        rfl
      have silent : Alike removed bridge (bridge.serve key most seat bridge.store.board.latest) :=
        (alike_serve_of_ended found ended most _).symm
      cases bridge.store.get seat.reader with
      | error refusal => exact silent
      | ok snapshot => exact (alike_serve_of_ended found ended most snapshot).trans silent

/-- The copy for a new client is always at hand. -/
theorem Linked.exists_clone (linked : bridge.Linked) :
    ∃ reader store, bridge.store.clone 0 = .ok (reader, store) := by
  obtain ⟨seen, caughtUp⟩ := Option.isSome_iff_exists.mp linked.attended.original
  rw [Store.clone, caughtUp]
  exact ⟨_, _, rfl⟩

/-- Doing the same on bridges that are alike keeps them alike. -/
theorem Alike.step
    (alike : Alike removed bridge other)
    (linked : bridge.Linked)
    (otherLinked : other.Linked)
    (link : Device.Link State)
    (timing : Timing)
    (clock : Poller.Clock)
    {act : Act}
    (stays : act.stays removed = true) :
    Alike removed (bridge.step link timing clock act) (other.step link timing clock act) := by
  cases act with
  | ask call =>
      simp only [Bridge.step, ← alike.pending]
      cases bridge.pending with
      | none =>
          exact ⟨alike.device, alike.now, alike.board, alike.hasWriter, rfl, alike.seats,
            alike.history⟩
      | some dialogue => exact alike
  | advance =>
      simp only [Bridge.step, ← alike.pending]
      cases bridge.pending with
      | none => exact alike
      | some dialogue => exact alike.advance link clock dialogue
  | publish status => exact alike.publish link timing clock status
  | connect key capacity =>
      have kept : removed key = false := by simpa [Act.stays, Act.key?] using stays
      obtain ⟨reader, store, cloned⟩ := linked.exists_clone
      obtain ⟨place, otherStore, otherCloned⟩ := otherLinked.exists_clone
      cases found : bridge.seats key with
      | none =>
          simp only [Bridge.step, found, alike.free kept found, cloned, otherCloned]
          exact alike.connect cloned otherCloned capacity
      | some seat =>
          obtain ⟨neighbour, neighbourFound, _⟩ := alike.exists_seat kept found
          simp only [Bridge.step, found, neighbourFound]
          exact alike
  | client key move =>
      have kept : removed key = false := by simpa [Act.stays, Act.key?] using stays
      cases found : bridge.seats key with
      | none =>
          simp only [Bridge.step, found, alike.free kept found]
          exact alike
      | some seat =>
          obtain ⟨neighbour, neighbourFound, same⟩ := alike.exists_seat kept found
          simp only [Bridge.step, found, neighbourFound]
          exact ⟨alike.device, alike.now, alike.board, alike.hasWriter, alike.pending,
            side_update alike.seats fun _ => side_move same move, alike.history⟩
  | serve key most =>
      have kept : removed key = false := by simpa [Act.stays, Act.key?] using stays
      cases found : bridge.seats key with
      | none =>
          simp only [Bridge.step, found, alike.free kept found]
          exact alike
      | some seat =>
          obtain ⟨neighbour, neighbourFound, same⟩ := alike.exists_seat kept found
          have served := linked.serves removed link timing clock found most
          have otherServed := otherLinked.serves removed link timing clock
            neighbourFound most
          rw [← alike.board] at otherServed
          exact served.trans
            ((alike.serve same key most bridge.store.board.latest).trans otherServed.symm)

/-! ## Steps that are taken out -/

/-- What happens at a place that is taken out is not seen at the others. -/
theorem side_update_of_removed
    {key : Nat}
    (gone : removed key = true)
    (seats : Nat → Option Seat)
    (seat : Seat) :
    ∀ other, removed other = false →
      (Function.update seats key (some seat) other).map Seat.side =
        (seats other).map Seat.side := by
  intro other stays
  have different : other ≠ key := by
    rintro rfl
    rw [gone] at stays
    cases stays
  rw [Function.update_of_ne different]

theorem filter_stays_answered
    {key : Nat}
    (gone : removed key = true)
    (position : Nat)
    (events : List Log.Event) :
    ((answers key position events).map Entry.answered).filter (Entry.stays removed) = [] := by
  rw [List.filter_eq_nil_iff, List.forall_mem_map]
  intro answer present
  rw [Entry.stays, key_of_mem_answers present, gone]
  exact Bool.false_ne_true

/-- A step of what is taken out changes nothing that is compared. -/
theorem alike_step_of_removed
    (bridge : Bridge State)
    (link : Device.Link State)
    (timing : Timing)
    (clock : Poller.Clock)
    {act : Act}
    (gone : act.stays removed = false) :
    Alike removed (bridge.step link timing clock act) bridge := by
  cases act with
  | ask call => cases gone
  | advance => cases gone
  | publish status => cases gone
  | connect key capacity =>
      have taken : removed key = true := by simpa [Act.stays, Act.key?] using gone
      simp only [step]
      split
      · rename_i reader store free cloned
        exact ⟨rfl, rfl, (Store.clone_spec cloned).1, Store.hasWriter_clone cloned, rfl,
          side_update_of_removed taken bridge.seats _, rfl⟩
      · exact .refl bridge
  | client key move =>
      have taken : removed key = true := by simpa [Act.stays, Act.key?] using gone
      simp only [step]
      split
      · exact ⟨rfl, rfl, rfl, rfl, rfl, side_update_of_removed taken bridge.seats _, rfl⟩
      · exact .refl bridge
  | serve key most =>
      have taken : removed key = true := by simpa [Act.stays, Act.key?] using gone
      simp only [step]
      split
      · rename_i seat found
        split
        · refine ⟨rfl, rfl, board_release _ _ _, hasWriter_release _ _ _, rfl,
            side_update_of_removed taken bridge.seats _, ?_⟩
          simp only [serve, List.filter_append, filter_stays_answered taken, List.append_nil]
        · exact .refl bridge
      · exact .refl bridge

/-! ## Runs -/

/-- A run and what is left of it without the connections taken out keep bridges alike, and find the
same snapshot at every step of what is left. -/
theorem Alike.run
    (alike : Alike removed bridge other)
    (linked : bridge.Linked)
    (otherLinked : other.Linked)
    (link : Device.Link State)
    (timing : Timing)
    (clock : Poller.Clock)
    (acts : List Act) :
    Alike removed (bridge.run link timing clock acts)
        (other.run link timing clock (acts.filter (Act.stays removed))) ∧
      (observed link timing clock bridge acts).filter (fun seen => seen.1.stays removed) =
        observed link timing clock other (acts.filter (Act.stays removed)) := by
  induction acts generalizing bridge other with
  | nil => exact ⟨alike, rfl⟩
  | cons act later inductionHypothesis =>
      have linkedAfter := linked.step link timing clock act
      cases stays : act.stays removed with
      | true =>
          obtain ⟨final, seen⟩ := inductionHypothesis
            (alike.step linked otherLinked link timing clock stays) linkedAfter
            (otherLinked.step link timing clock act)
          simp only [List.filter_cons, stays, if_true, observed, seen, alike.board, and_true]
          exact final
      | false =>
          obtain ⟨final, seen⟩ := inductionHypothesis
            ((alike_step_of_removed bridge link timing clock stays).trans alike) linkedAfter
            otherLinked
          simp only [List.filter_cons, stays, Bool.false_eq_true, if_false, observed, seen,
            and_true]
          exact final

theorem operations_filter_stays
    (removed : Nat → Bool)
    (history : List Entry) :
    operations (history.filter (Entry.stays removed)) = operations history := by
  rw [operations, List.filterMap_filter]
  congr 1
  funext entry
  cases entry with
  | answered answer => exact ite_self none
  | _ => rfl

theorem endings_filter_stays
    (removed : Nat → Bool)
    (history : List Entry) :
    endings (history.filter (Entry.stays removed)) = endings history := by
  rw [endings, List.filterMap_filter]
  congr 1
  funext entry
  cases entry with
  | answered answer => exact ite_self none
  | _ => rfl

/-- The answers on a connection that stays are all kept. -/
theorem given_filter_stays
    {key : Nat}
    (stays : removed key = false)
    (history : List Entry) :
    (given (history.filter (Entry.stays removed))).filter (·.key = key) =
      (given history).filter (·.key = key) := by
  rw [given, given, List.filter_filterMap, List.filter_filterMap, List.filterMap_filter]
  congr 1
  funext entry
  cases entry with
  | answered answer =>
      by_cases here : answer.key = key
      · simp only [Entry.stays, here, stays, Bool.not_false, if_true]
      · simp only [Option.filter_some, here, decide_false, Bool.false_eq_true, if_false, ite_self]
  | _ => rfl

/-- Taking the acts of any connections out of a run changes nothing that the poller does or finds,
nothing that is published, and nothing for the other clients. -/
theorem clients_do_not_interfere
    (link : Device.Link State)
    (timing : Timing)
    (clock : Poller.Clock)
    (device : State)
    (now : Nat)
    (acts : List Act)
    (removed : Nat → Bool) :
    let whole := (start device now).run link timing clock acts
    let rest := (start device now).run link timing clock (acts.filter (Act.stays removed))
    operations whole.history = operations rest.history ∧
      endings whole.history = endings rest.history ∧
      (observed link timing clock (start device now) acts).filter
          (fun seen => seen.1.stays removed) =
        observed link timing clock (start device now) (acts.filter (Act.stays removed)) ∧
      whole.store.board = rest.store.board ∧
      ∀ key, removed key = false →
        (given whole.history).filter (·.key = key) = (given rest.history).filter (·.key = key) ∧
          (whole.seats key).map Seat.side = (rest.seats key).map Seat.side := by
  intro whole rest
  have linked : (start device now).Linked := linked_start device now
  have same : Alike removed (start device now) (start device now) := .refl _
  obtain ⟨alike, seen⟩ := same.run linked linked link timing clock acts
  refine ⟨?_, ?_, seen, alike.board, ?_⟩
  · calc operations whole.history
        = operations (whole.history.filter (Entry.stays removed)) :=
          (operations_filter_stays removed whole.history).symm
      _ = operations (rest.history.filter (Entry.stays removed)) :=
          congrArg operations alike.history
      _ = operations rest.history := operations_filter_stays removed rest.history
  · calc endings whole.history
        = endings (whole.history.filter (Entry.stays removed)) :=
          (endings_filter_stays removed whole.history).symm
      _ = endings (rest.history.filter (Entry.stays removed)) := congrArg endings alike.history
      _ = endings rest.history := endings_filter_stays removed rest.history
  · intro key stays
    refine ⟨?_, alike.seats key stays⟩
    calc (given whole.history).filter (·.key = key)
        = (given (whole.history.filter (Entry.stays removed))).filter (·.key = key) :=
          (given_filter_stays stays whole.history).symm
      _ = (given (rest.history.filter (Entry.stays removed))).filter (·.key = key) := by
          rw [alike.history]
      _ = (given rest.history).filter (·.key = key) := given_filter_stays stays rest.history

/-- One client sends a line that is too long, and another goes away in the middle of a request.  The
third one gets the answer that it would have got without them. -/
theorem clients_do_not_interfere_in_a_rotation :
    let removed : Nat → Bool := (· < 2)
    let acts : List Act :=
      [.connect 0 2048, .connect 1 64, .connect 2 64, .ask .poll,
        .client 0 (.offer (List.replicate 1100 97)), .serve 0 2048, .serve 0 2048, .advance, .advance,
        .client 1 (.offer (Text.utf8 "get_")), .advance, .serve 1 64, .client 1 .vanish,
        .advance, .serve 1 64, .advance, .serve 1 64, .advance,
        .client 2 (.offer (Text.utf8 "get_hw\n")), .serve 2 64, .serve 0 64, .serve 2 64]
    let first : Bridge Device.Playback := start ⟨[.ok (Frame.encode .example)], none⟩ 0
    let whole := first.run (Device.Playback.link "line") .standard .exact acts
    let rest := first.run (Device.Playback.link "line") .standard .exact
      (acts.filter (Act.stays removed))
    removed 2 = false ∧
      (given rest.history).filter (·.key = 2) = [⟨2, "get_hw", "18", 1⟩] ∧
      (given whole.history).filter (·.key = 2) = [⟨2, "get_hw", "18", 1⟩] := by
  intro removed acts first whole rest
  have answered : (given rest.history).filter (·.key = 2) = [⟨2, "get_hw", "18", 1⟩] := by
    decide +kernel
  refine ⟨rfl, answered, Eq.trans ?_ answered⟩
  exact ((clients_do_not_interfere (Device.Playback.link "line") .standard .exact _ 0 acts
    removed).2.2.2.2 2 rfl).1

end Bridge
end SerialShare
