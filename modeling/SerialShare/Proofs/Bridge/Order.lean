import Mathlib.Data.List.Induction
import SerialShare.Proofs.Bridge.Readers

/-!
# One order for publications and replies

The statuses of a history, in order, are the publications; after the first few of them the board
shows the last of those, and nothing after none.  A history `Tells` what the board shows when every
answer in it was worked out from what the board showed at that point, and says how many publications
there had been.  Every step of the bridge keeps this, because a handler at work has a reader of its
own, and every reader that is there sees the board.

The order of the history is then one order of all publications and replies.
-/

namespace SerialShare
namespace Bridge

open Board (foldl_publish)

variable {State : Type}

/-! ## Histories -/

/-- The statuses published, as a history tells. -/
def statuses (history : List Entry) : List Status :=
  history.filterMap fun
    | .published status => some status
    | _ => none

/-- The answers given, as a history tells. -/
def given (history : List Entry) : List Answer :=
  history.filterMap fun
    | .answered answer => some answer
    | _ => none

theorem statuses_append (earlier later : List Entry) :
    statuses (earlier ++ later) = statuses earlier ++ statuses later :=
  List.filterMap_append

theorem given_append (earlier later : List Entry) :
    given (earlier ++ later) = given earlier ++ given later :=
  List.filterMap_append

/-- What the board shows after the first few of the publications. -/
def snapshotAt (publications : List Status) (position : Nat) : Snapshot :=
  (publications.take position).getLast?

/-- What the board shows after an entry. -/
def shown (board : Board) : Entry → Board
  | .published status => board.publish status
  | _ => board

/-- Every answer in a history was worked out from what the board showed at that point. -/
def Tells (board : Board) : List Entry → Prop
  | [] => True
  | entry :: later =>
    (match entry with
      | .answered answer =>
        answer.position = board.published ∧
          answer.reply = Query.reply answer.request board.latest
      | _ => True) ∧ Tells (shown board entry) later

theorem tells_append
    (board : Board)
    (earlier later : List Entry) :
    Tells board (earlier ++ later) ↔
      Tells board earlier ∧ Tells (earlier.foldl shown board) later := by
  induction earlier generalizing board with
  | nil => simp [Tells]
  | cons entry earlier inductionHypothesis =>
      simp only [List.cons_append, Tells, List.foldl_cons, inductionHypothesis, and_assoc]

/-- Only publications change what the board shows. -/
theorem foldl_shown
    (history : List Entry)
    (board : Board) :
    history.foldl shown board = (statuses history).foldl Board.publish board := by
  induction history generalizing board with
  | nil => rfl
  | cons entry later inductionHypothesis =>
      cases entry with
      | published status => exact inductionHypothesis (board.publish status)
      | operated operation => exact inductionHypothesis board
      | called ending => exact inductionHypothesis board
      | answered answer => exact inductionHypothesis board

/-- What a history tells of an answer anywhere in it. -/
theorem Tells.answer
    {earlier later : List Entry}
    {answer : Answer}
    (tells : Tells .empty (earlier ++ .answered answer :: later)) :
    answer.position = (statuses earlier).length ∧
      answer.reply = Query.reply answer.request (statuses earlier).getLast? := by
  have here := ((tells_append _ _ _).mp tells).2
  rw [foldl_shown, foldl_publish] at here
  exact here.1

theorem mem_given_iff
    {history : List Entry}
    {answer : Answer} :
    answer ∈ given history ↔ .answered answer ∈ history := by
  unfold given
  rw [List.mem_filterMap]
  constructor
  · rintro ⟨entry, present, equal⟩
    cases entry with
    | answered other =>
        cases equal
        exact present
    | operated operation => cases equal
    | called ending => cases equal
    | published status => cases equal
  · intro present
    exact ⟨.answered answer, present, rfl⟩

/-- Every answer is that to what one of the publications so far shows. -/
theorem Tells.of_mem
    {history : List Entry}
    {answer : Answer}
    (tells : Tells .empty history)
    (present : .answered answer ∈ history) :
    answer.position ≤ (statuses history).length ∧
      answer.reply = Query.reply answer.request (snapshotAt (statuses history) answer.position) := by
  obtain ⟨earlier, later, rfl⟩ := List.append_of_mem present
  obtain ⟨position, reply⟩ := tells.answer
  rw [statuses_append, position, snapshotAt, List.take_left, List.length_append]
  exact ⟨Nat.le_add_right _ _, reply⟩

/-- Answers given later were not worked out from fewer publications. -/
theorem Tells.pairwise
    {history : List Entry}
    (tells : Tells .empty history) :
    (given history).Pairwise fun earlier later => earlier.position ≤ later.position := by
  induction history using List.reverseRecOn with
  | nil => exact List.Pairwise.nil
  | append_singleton history entry inductionHypothesis =>
      have before := ((tells_append _ _ _).mp tells).1
      rw [given_append, List.pairwise_append]
      refine ⟨inductionHypothesis before, ?_, ?_⟩
      · cases entry <;> simp [given]
      · intro earlier earlierPresent later laterPresent
        rw [mem_given_iff, List.mem_singleton] at laterPresent
        subst laterPresent
        rw [tells.answer.1]
        exact (before.of_mem (mem_given_iff.mp earlierPresent)).1

/-! ## New entries -/

/-- Entries without answers tell nothing wrong. -/
theorem tells_of_no_answers
    {entries : List Entry}
    (none : ∀ answer, .answered answer ∉ entries)
    (board : Board) :
    Tells board entries := by
  induction entries generalizing board with
  | nil => trivial
  | cons entry later inductionHypothesis =>
      refine ⟨?_, inductionHypothesis (fun answer present => ?_) _⟩
      · cases entry with
        | answered answer => exact absurd List.mem_cons_self (none answer)
        | operated operation => trivial
        | called ending => trivial
        | published status => trivial
      · exact none answer (List.mem_cons_of_mem _ present)

theorem statuses_noted (advance : Poller.Advance State (Outcome ⊕ Device.Response)) :
    statuses (noted advance) = advance.published := by
  rw [noted, statuses_append, statuses_append]
  cases advance.remainder <;> simp [statuses, List.filterMap_map]

theorem tells_noted
    (advance : Poller.Advance State (Outcome ⊕ Device.Response))
    (board : Board) :
    Tells board (noted advance) := by
  apply tells_of_no_answers
  intro answer
  cases remainder : advance.remainder <;> simp [noted, remainder]

theorem statuses_answered (answers : List Answer) :
    statuses (answers.map .answered) = [] := by
  simp [statuses, List.filterMap_map]

theorem tells_answered
    {answers : List Answer}
    {board : Board}
    (right : ∀ answer ∈ answers,
      answer.position = board.published ∧
        answer.reply = Query.reply answer.request board.latest) :
    Tells board (answers.map .answered) := by
  induction answers with
  | nil => trivial
  | cons answer later inductionHypothesis =>
      refine ⟨right answer List.mem_cons_self, ?_⟩
      exact inductionHypothesis fun other present => right other (List.mem_cons_of_mem _ present)

/-- The answers of a handler's step are those to the requests it took, from the snapshot. -/
theorem answers_serve
    (connection : Connection)
    (most : Nat)
    (snapshot : Snapshot)
    (key position : Nat) :
    answers key position (connection.serve most snapshot).2 =
      (Handler.taken (connection.serve most snapshot).2).map fun request =>
        ⟨key, request, Query.reply request snapshot, position⟩ := by
  have recorded := connection.events_serve most snapshot
  generalize (connection.serve most snapshot).2 = events at recorded ⊢
  nth_rewrite 1 [recorded]
  simp [answers, List.filterMap_map]

/-! ## What clients receive -/

/-- The bytes of the answers to one client, as a history tells: each reply and one newline. -/
def sentTo (key : Nat) (history : List Entry) : Bytes :=
  ((given history).filter fun answer => answer.key = key).flatMap fun answer =>
    Text.utf8 answer.reply ++ [0x0A]

theorem sentTo_append
    (key : Nat)
    (earlier later : List Entry) :
    sentTo key (earlier ++ later) = sentTo key earlier ++ sentTo key later := by
  rw [sentTo, given_append, List.filter_append, List.flatMap_append]
  rfl

theorem sentTo_noted
    (key : Nat)
    (advance : Poller.Advance State (Outcome ⊕ Device.Response)) :
    sentTo key (noted advance) = [] := by
  have none : given (noted advance) = [] := by
    rw [noted, given_append, given_append]
    cases advance.remainder <;> simp [given, List.filterMap_map]
  rw [sentTo, none]
  rfl

theorem given_answered (answers : List Answer) :
    given (answers.map .answered) = answers := by
  simp [given, List.filterMap_map]

theorem sentTo_serve_self
    (connection : Connection)
    (most : Nat)
    (snapshot : Snapshot)
    (key position : Nat) :
    sentTo key ((answers key position (connection.serve most snapshot).2).map .answered) =
      Handler.replyLines (Handler.answering snapshot (connection.serve most snapshot).2) := by
  rw [sentTo, given_answered, answers_serve, Handler.replyLines, Handler.answering]
  simp [List.filter_map, List.flatMap_map, Function.comp_def, Handler.replyLine]

theorem sentTo_serve_of_ne
    {key other : Nat}
    (different : other ≠ key)
    (position : Nat)
    (events : List Log.Event) :
    sentTo other ((answers key position events).map .answered) = [] := by
  have none : ((answers key position events).filter fun answer => answer.key = other) = [] := by
    rw [List.filter_eq_nil_iff]
    intro answer present
    rw [key_of_mem_answers present, decide_eq_true_eq]
    exact different.symm
  rw [sentTo, given_answered, none]
  rfl

/-- What a client has received, what is under way to it and what is still owed to it are some bytes.
A client that has gone away is owed what it will never receive. -/
def Delivers (seat : Seat) (bytes : Bytes) : Prop :=
  ∃ owed, seat.received ++ (seat.connection.replies ++ owed) = bytes ∧
    (seat.connection.clientGone = false → owed = seat.connection.handler.outgoing) ∧
    (seat.connection.clientGone = true → seat.connection.replies = [])

theorem Delivers.move
    {seat : Seat}
    {bytes : Bytes}
    (delivers : Delivers seat bytes)
    (move : Seat.Move) :
    Delivers (seat.move move) bytes := by
  obtain ⟨owed, whole, staying, gone⟩ := delivers
  cases move with
  | offer bytes =>
      refine ⟨owed, ?_, ?_, ?_⟩
      all_goals
        simp only [Seat.move, Connection.offer]
        split <;> assumption
  | collect most =>
      refine ⟨owed, ?_, staying, ?_⟩
      · rw [← whole]
        simp only [Seat.move, Connection.collect, List.append_assoc]
        rw [← List.append_assoc (seat.connection.replies.take most), List.take_append_drop]
      · intro vanished
        simp only [Seat.move, Connection.collect, gone vanished, List.drop_nil]
  | close => exact ⟨owed, whole, staying, gone⟩
  | vanish =>
      refine ⟨seat.connection.replies ++ owed, ?_, ?_, fun _ => rfl⟩
      · exact whole
      · rintro ⟨⟩

theorem Delivers.serve
    {seat : Seat}
    {bytes : Bytes}
    (delivers : Delivers seat bytes)
    (most : Nat)
    (snapshot : Snapshot) :
    Delivers { seat with connection := (seat.connection.serve most snapshot).1 }
      (bytes ++ Handler.replyLines
        (Handler.answering snapshot (seat.connection.serve most snapshot).2)) := by
  obtain ⟨owed, whole, staying, gone⟩ := delivers
  have unchanged := whole.trans (List.append_nil bytes).symm
  have course := seat.connection.serving most snapshot
  generalize seat.connection.serve most snapshot = result at course ⊢
  cases course with
  | looked running clear looks =>
      refine ⟨owed ++ Handler.replyLines
        (Handler.answering snapshot (seat.connection.handler.look snapshot).2), ?_, ?_, gone⟩
      · rw [← whole]
        simp only [List.append_assoc]
      · intro present
        rw [staying present, clear, List.nil_append]
        exact (Handler.outgoing_look clear snapshot).symm
  | replied running pending present count fits =>
      refine ⟨owed.drop count, ?_, ?_, ?_⟩
      · refine Eq.trans ?_ unchanged
        simp only [staying present, List.append_assoc, List.take_append_drop]
      · intro _
        rw [staying present]
        rfl
      · intro vanished
        rw [present] at vanished
        cases vanished
  | finished ended => exact ⟨owed, unchanged, staying, gone⟩
  | lost running pending vanished => exact ⟨owed, unchanged, staying, gone⟩
  | received running clear idle pending => exact ⟨owed, unchanged, staying, gone⟩
  | learned running clear idle drained stopped => exact ⟨owed, unchanged, staying, gone⟩
  | waited running clear idle drained unfinished present =>
      exact ⟨owed, unchanged, staying, gone⟩

/-! ## Every step -/

/-- What every step keeps: the history is that of the store and of what the clients receive. -/
structure Linked (bridge : Bridge State) : Prop where
  /-- The store is the one that the publications lead to. -/
  board_eq : bridge.store.board = bridge.history.foldl shown .empty
  /-- The answers were worked out from what the board showed. -/
  tells : Tells .empty bridge.history
  /-- Every handler has its reader. -/
  attended : Attended bridge.store bridge.seats
  /-- Who has not connected has not been answered. -/
  unknown : ∀ key, bridge.seats key = none → sentTo key bridge.history = []
  /-- Clients receive the answers to them. -/
  delivers : ∀ key seat, bridge.seats key = some seat →
    Delivers seat (sentTo key bridge.history)

theorem linked_start
    (device : State)
    (now : Nat) :
    (start device now).Linked := by
  refine ⟨rfl, trivial, attended_start, fun _ _ => rfl, ?_⟩
  rintro key seat ⟨⟩

theorem Linked.advance
    {bridge : Bridge State}
    (linked : bridge.Linked)
    (link : Device.Link State)
    (clock : Poller.Clock)
    (dialogue : Dialogue (Outcome ⊕ Device.Response)) :
    (bridge.advance link clock dialogue).Linked := by
  unfold Bridge.advance
  refine ⟨?_, ?_, ?_, ?_, ?_⟩
  · simp only [List.foldl_append, ← linked.board_eq]
    rw [foldl_shown, statuses_noted]
    exact Poller.board_advance link clock _ dialogue
  · exact (tells_append _ _ _).mpr ⟨linked.tells, tells_noted _ _⟩
  · exact ⟨linked.attended.original, linked.attended.given, linked.attended.apart,
      linked.attended.present⟩
  · intro key free
    rw [sentTo_append, sentTo_noted, List.append_nil]
    exact linked.unknown key free
  · intro key seat found
    rw [sentTo_append, sentTo_noted, List.append_nil]
    exact linked.delivers key seat found

theorem Linked.publish
    {bridge : Bridge State}
    {store : Store}
    {status : Status}
    (linked : bridge.Linked)
    (published : bridge.store.set status = .ok store) :
    Linked { bridge with store, history := bridge.history ++ [.published status] } := by
  unfold Store.set at published
  split at published
  · cases published
    refine ⟨?_, ?_, ?_, ?_, ?_⟩
    · simp only [List.foldl_append, ← linked.board_eq]
      rfl
    · exact (tells_append _ _ _).mpr ⟨linked.tells, trivial, trivial⟩
    · exact ⟨linked.attended.original, linked.attended.given, linked.attended.apart,
        linked.attended.present⟩
    · intro key free
      rw [sentTo_append]
      exact (List.append_nil _).trans (linked.unknown key free)
    · intro key seat found
      rw [sentTo_append]
      exact (List.append_nil (sentTo key bridge.history)).symm ▸ linked.delivers key seat found
  · cases published

theorem Linked.connect
    {bridge : Bridge State}
    {store : Store}
    {key reader : Nat}
    (linked : bridge.Linked)
    (free : bridge.seats key = none)
    (cloned : bridge.store.clone 0 = .ok (reader, store))
    (capacity : Nat) :
    Linked { bridge with
      store
      seats := Function.update bridge.seats key (some ⟨reader, .new capacity, []⟩) } := by
  refine ⟨?_, linked.tells, linked.attended.connect cloned capacity, ?_, ?_⟩
  · rw [(Store.clone_spec cloned).1]
    exact linked.board_eq
  · intro other otherFree
    obtain ⟨_, ⟨⟩⟩ | ⟨_, otherFree⟩ := cases_update otherFree
    exact linked.unknown other otherFree
  · intro other seat found
    obtain ⟨rfl, equal⟩ | ⟨_, found⟩ := cases_update found
    · cases equal
      refine (linked.unknown other free).symm ▸ ?_
      exact ⟨[], rfl, fun _ => rfl, fun _ => rfl⟩
    · exact linked.delivers other seat found

theorem Linked.client
    {bridge : Bridge State}
    {key : Nat}
    {seat : Seat}
    (linked : bridge.Linked)
    (found : bridge.seats key = some seat)
    (move : Seat.Move) :
    Linked { bridge with
      seats := Function.update bridge.seats key (some (seat.move move)) } := by
  refine ⟨linked.board_eq, linked.tells, linked.attended.client found move, ?_, ?_⟩
  · intro other free
    obtain ⟨_, ⟨⟩⟩ | ⟨_, free⟩ := cases_update free
    exact linked.unknown other free
  · intro other neighbour neighbourFound
    obtain ⟨rfl, equal⟩ | ⟨_, neighbourFound⟩ := cases_update neighbourFound
    · cases equal
      exact (linked.delivers other seat found).move move
    · exact linked.delivers other neighbour neighbourFound

theorem board_release
    (store : Store)
    (reader : Nat)
    (handler : Handler) :
    (release store reader handler).board = store.board := by
  unfold release
  split
  · cases dropped : store.dropReader reader with
    | error refusal => rfl
    | ok after => exact (Store.dropReader_spec dropped).1
  · rfl

theorem Linked.serve
    {bridge : Bridge State}
    {key : Nat}
    {seat : Seat}
    {snapshot : Snapshot}
    (linked : bridge.Linked)
    (found : bridge.seats key = some seat)
    (seen : bridge.store.get seat.reader = .ok snapshot)
    (most : Nat) :
    (bridge.serve key most seat snapshot).Linked := by
  have current := Store.eq_latest_of_get seen
  unfold Bridge.serve
  refine ⟨?_, ?_, ?_, ?_, ?_⟩
  · rw [board_release, List.foldl_append, ← linked.board_eq, foldl_shown, statuses_answered]
    rfl
  · refine (tells_append _ _ _).mpr ⟨linked.tells, ?_⟩
    rw [← linked.board_eq]
    apply tells_answered
    intro answer present
    rw [answers_serve, List.mem_map] at present
    obtain ⟨request, _, rfl⟩ := present
    rw [← current]
    exact ⟨rfl, rfl⟩
  · exact linked.attended.release found Connection.running_of_serve
  · intro other free
    obtain ⟨_, ⟨⟩⟩ | ⟨different, free⟩ := cases_update free
    rw [sentTo_append, sentTo_serve_of_ne different, List.append_nil]
    exact linked.unknown other free
  · intro other neighbour neighbourFound
    obtain ⟨rfl, equal⟩ | ⟨different, neighbourFound⟩ := cases_update neighbourFound
    · cases equal
      rw [sentTo_append, sentTo_serve_self]
      exact (linked.delivers other seat found).serve most snapshot
    · rw [sentTo_append, sentTo_serve_of_ne different, List.append_nil]
      exact linked.delivers other neighbour neighbourFound

theorem Linked.step
    {bridge : Bridge State}
    (linked : bridge.Linked)
    (link : Device.Link State)
    (timing : Timing)
    (clock : Poller.Clock)
    (act : Act) :
    (bridge.step link timing clock act).Linked := by
  cases act with
  | ask call =>
      simp only [Bridge.step]
      split
      · exact linked
      · exact ⟨linked.board_eq, linked.tells, linked.attended, linked.unknown, linked.delivers⟩
  | advance =>
      simp only [Bridge.step]
      split
      · exact linked.advance link clock _
      · exact linked
  | publish status =>
      simp only [Bridge.step]
      split
      · rename_i store published
        exact linked.publish published
      · exact linked
  | connect key capacity =>
      simp only [Bridge.step]
      split
      · rename_i reader store free cloned
        exact linked.connect free cloned capacity
      · exact linked
  | client key move =>
      simp only [Bridge.step]
      split
      · rename_i seat found
        exact linked.client found move
      · exact linked
  | serve key most =>
      simp only [Bridge.step]
      split
      · rename_i seat found
        split
        · rename_i snapshot seen
          exact linked.serve found seen most
        · exact linked
      · exact linked

theorem linked_run
    (link : Device.Link State)
    (timing : Timing)
    (clock : Poller.Clock)
    (device : State)
    (now : Nat)
    (acts : List Act) :
    ((start device now).run link timing clock acts).Linked := by
  induction acts using List.reverseRecOn with
  | nil => exact linked_start device now
  | append_singleton acts act inductionHypothesis =>
      rw [run, List.foldl_append]
      exact inductionHypothesis.step link timing clock act

/-! ## The order -/

theorem Delivers.isPrefix
    {seat : Seat}
    {bytes : Bytes}
    (delivers : Delivers seat bytes) :
    seat.received <+: bytes := by
  obtain ⟨owed, whole, _⟩ := delivers
  exact ⟨_, whole⟩

/-- Over any link and with any clock, however the steps of the poller, of the clients and of their
handlers come one after the other: every reply is the answer from one of the snapshots that the
publications lead to.  A reply given after a publication is never the answer from nothing.  Of two
replies, on one connection or on two, the one given earlier is not from a later snapshot.  What a
client has received is the replies to it, in order, as far as they have come, and a handler at work
sees what was published last. -/
theorem replies_follow_publications
    (link : Device.Link State)
    (timing : Timing)
    (clock : Poller.Clock)
    (device : State)
    (now : Nat)
    (acts : List Act) :
    let bridge := (start device now).run link timing clock acts
    (∀ answer, .answered answer ∈ bridge.history →
      answer.position ≤ (statuses bridge.history).length ∧
        answer.reply =
          Query.reply answer.request (snapshotAt (statuses bridge.history) answer.position)) ∧
    (∀ earlier answer later, bridge.history = earlier ++ .answered answer :: later →
      statuses earlier ≠ [] →
      snapshotAt (statuses bridge.history) answer.position ≠ none) ∧
    ((given bridge.history).Pairwise fun earlier later => earlier.position ≤ later.position) ∧
    (∀ key seat, bridge.seats key = some seat →
      seat.received <+: sentTo key bridge.history ∧
        (seat.connection.handler.ending = none →
          bridge.store.get seat.reader = .ok (statuses bridge.history).getLast?)) := by
  intro bridge
  have linked : bridge.Linked := linked_run link timing clock device now acts
  refine ⟨?_, ?_, linked.tells.pairwise, ?_⟩
  · intro answer present
    exact linked.tells.of_mem present
  · intro earlier answer later split_ published
    have tells := linked.tells
    rw [split_] at tells ⊢
    rw [tells.answer.1, statuses_append, snapshotAt, List.take_left]
    simpa using published
  · intro key seat found
    refine ⟨(linked.delivers key seat found).isPrefix, fun running => ?_⟩
    rw [Store.get_of_present (linked.attended.present key seat found running), linked.board_eq,
      foldl_shown, foldl_publish]

/-- One client is answered before the first status is published and one after it, in the middle of
the rotation. -/
theorem replies_follow_publications_in_a_rotation :
    let acts : List Act :=
      [.connect 0 64, .connect 1 64, .ask .poll,
        .client 0 (.offer (Text.utf8 "get_hw\n")), .serve 0 64, .serve 0 64,
        .advance, .advance, .advance, .advance, .advance, .advance,
        .client 1 (.offer (Text.utf8 "get_hw\n")), .serve 1 64, .serve 1 64, .advance]
    let bridge := (start (⟨[.ok (Frame.encode .example)], none⟩ : Device.Playback) 0).run
      (Device.Playback.link "line") .standard .exact acts
    .answered ⟨1, "get_hw", "18", 1⟩ ∈ bridge.history ∧
      "18" = Query.reply "get_hw" (snapshotAt (statuses bridge.history) 1) := by
  intro acts bridge
  have present : .answered ⟨1, "get_hw", "18", 1⟩ ∈ bridge.history := by
    rw [← mem_given_iff]
    decide +kernel
  exact ⟨present, ((replies_follow_publications (Device.Playback.link "line") .standard .exact _ 0
    acts).1 _ present).2⟩

end Bridge
end SerialShare
