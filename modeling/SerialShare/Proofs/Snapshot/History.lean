import Mathlib.Data.List.Induction
import SerialShare.Proofs.Snapshot.Store

/-!
# A store as its history tells it

Any operations come one after the other, on any readers that are there.  Those that are possible
make up a history, the latest of them first, and what a store answers can be read off its history
alone: what was set last, and what has been set since a reader last caught up.

What one operation does to every reader is said once, in `Follows`.  That a store is the one its
history tells of, in `Recounts`, is kept by whatever follows, and the rest is drawn from it.
-/

namespace SerialShare
namespace Store

/-! ## Operations and events -/

/-- What can be done with a store. -/
inductive Operation where
  /-- Publish a status. -/
  | set (status : Status)
  /-- Have the writer make a reader. -/
  | subscribe
  /-- Copy a reader. -/
  | clone (reader : Nat)
  /-- Look with a reader. -/
  | get (reader : Nat)
  /-- Ask for news with a reader, once. -/
  | changed (reader : Nat)
  /-- Let a reader go. -/
  | dropReader (reader : Nat)
  /-- Let the writer go. -/
  | dropWriter

/-- The reader that an operation is done with, if it is done with one. -/
def Operation.reader? : Operation → Option Nat
  | .clone reader => some reader
  | .get reader => some reader
  | .changed reader => some reader
  | .dropReader reader => some reader
  | _ => none

/-- Something that happened on a store. -/
inductive Event where
  /-- A status was published. -/
  | set (status : Status)
  /-- The writer made a reader. -/
  | subscribed (fresh : Nat)
  /-- A reader was copied. -/
  | cloned (original fresh : Nat)
  /-- A reader looked and saw this. -/
  | got (reader : Nat) (snapshot : Snapshot)
  /-- A reader asked for news and heard this. -/
  | changed (reader : Nat) (news : News)
  /-- A reader went. -/
  | readerDropped (reader : Nat)
  /-- The writer went. -/
  | writerDropped
  deriving DecidableEq

namespace Event

/-- The status that was published, if one was. -/
def status? : Event → Option Status
  | .set status => some status
  | _ => none

/-- The reader that came into being, if one did. -/
def made? : Event → Option Nat
  | .subscribed fresh => some fresh
  | .cloned _ fresh => some fresh
  | _ => none

/-- The reader that something was done with, if it was done with one. -/
def reader? : Event → Option Nat
  | .cloned original _ => some original
  | .got reader _ => some reader
  | .changed reader _ => some reader
  | .readerDropped reader => some reader
  | _ => none

/-- Whether a reader catches up with everything published so far. -/
def catchesUp (reader : Nat) : Event → Bool
  | .subscribed fresh => reader = fresh
  | .changed other .fresh => reader = other
  | _ => false

/-- The reader that had caught up as far before, which is the original for a copy. -/
def source (reader : Nat) : Event → Nat
  | .cloned original fresh => if reader = fresh then original else reader
  | _ => reader

/-- What a reader saw, if it looked. -/
def saw? (reader : Nat) : Event → Option Snapshot
  | .got other snapshot => if reader = other then some snapshot else none
  | _ => none

/-- What the board shows after an event. -/
def shown (board : Board) (event : Event) : Board :=
  match event.status? with
  | some status => board.publish status
  | none => board

end Event

/-- Do an operation: what happens, and the store afterwards. -/
def perform (store : Store) : Operation → Except Refusal (Event × Store)
  | .set status => (store.set status).map fun after => (.set status, after)
  | .subscribe => store.subscribe.map fun (fresh, after) => (.subscribed fresh, after)
  | .clone reader => (store.clone reader).map fun (fresh, after) => (.cloned reader fresh, after)
  | .get reader => (store.get reader).map fun snapshot => (.got reader snapshot, store)
  | .changed reader => (store.changed reader).map fun (news, after) => (.changed reader news, after)
  | .dropReader reader => (store.dropReader reader).map fun after => (.readerDropped reader, after)
  | .dropWriter => store.dropWriter.map fun after => (.writerDropped, after)

/-- What a reader that asks for news hears. -/
def hear (store : Store) (reader : Nat) : Except Refusal News :=
  (store.changed reader).map Prod.fst

/-! ## Histories -/

/-- The statuses published, the latest first. -/
def sets (history : List Event) : List Status :=
  history.filterMap Event.status?

/-- The status published last. -/
def lastSet (history : List Event) : Snapshot :=
  (sets history).head?

/-- What has happened since a reader last caught up.  A copy has caught up as far as its original
had when it was copied, and looking is not catching up. -/
def since : List Event → Nat → List Event
  | [], _ => []
  | event :: earlier, reader =>
    if event.catchesUp reader then [] else event :: since earlier (event.source reader)

/-- A reader has come into being and has not gone.  The first one is there from the beginning. -/
def Live (history : List Event) (reader : Nat) : Prop :=
  (reader = 0 ∨ ∃ event ∈ history, event.made? = some reader) ∧ .readerDropped reader ∉ history

instance (history : List Event) (reader : Nat) : Decidable (Live history reader) :=
  inferInstanceAs (Decidable (_ ∧ _))

/-- What a reader saw when it last looked, if it ever did. -/
def lastGot (history : List Event) (reader : Nat) : Option Snapshot :=
  history.findSome? (Event.saw? reader)

/-- A reader has looked each time after it heard of something fresh. -/
def Attentive (history : List Event) (reader : Nat) : Prop :=
  ∀ position < history.length, history[position]? = some (.changed reader .fresh) →
    ∃ event ∈ history.take position, (event.saw? reader).isSome

instance (history : List Event) (reader : Nat) : Decidable (Attentive history reader) :=
  inferInstanceAs (Decidable (∀ position < history.length, _))

/-- The side that an operation is done on is there. -/
def Possible (history : List Event) (operation : Operation) : Prop :=
  match operation.reader? with
  | some reader => Live history reader
  | none => .writerDropped ∉ history

/-- A store, and what has happened on it. -/
structure Chronicle where
  /-- The store. -/
  store : Store
  /-- What has happened, the latest first. -/
  history : List Event

namespace Chronicle

/-- A fresh store. -/
def start : Chronicle := ⟨.new, []⟩

/-- Do one operation, if it is possible. -/
def step (chronicle : Chronicle) (operation : Operation) : Chronicle :=
  match chronicle.store.perform operation with
  | .ok (event, after) => ⟨after, event :: chronicle.history⟩
  | .error _ => chronicle

/-- Do operations one after the other. -/
def run (operations : List Operation) : Chronicle :=
  operations.foldl step start

end Chronicle

/-! ## What one operation does -/

/-- What an event does to a store. -/
structure Follows (store : Store) (event : Event) (after : Store) : Prop where
  /-- Only a publication changes what the board shows. -/
  board : after.board = event.shown store.board
  /-- The writer is there until it goes. -/
  hasWriter : after.hasWriter = true ↔ store.hasWriter = true ∧ event ≠ .writerDropped
  /-- No number of a reader is used again. -/
  length : store.readers.length ≤ after.readers.length
  /-- A reader that comes into being has the next number. -/
  made : ∀ reader, event.made? = some reader →
    reader = store.readers.length ∧ reader < after.readers.length
  /-- Something can only be done with a reader that is there. -/
  known : ∀ reader, event.reader? = some reader → (store.caughtUp? reader).isSome
  /-- Who looks sees the board. -/
  got : ∀ reader snapshot, event = .got reader snapshot → snapshot = store.board.latest
  /-- How far each reader has caught up. -/
  caughtUp : ∀ reader, after.caughtUp? reader =
    if event = .readerDropped reader then none
    else if event.catchesUp reader then some after.board.published
    else store.caughtUp? (event.source reader)

variable {store after : Store}

theorem follows_set
    {status : Status}
    (done : store.set status = .ok after) :
    Follows store (.set status) after := by
  unfold set at done
  split at done
  · rename_i present
    cases done
    refine ⟨rfl, ?_, Nat.le_refl _, ?_, ?_, ?_, fun reader => rfl⟩
    · simp only [present, ne_eq, reduceCtorEq, not_false_eq_true, and_self]
    · rintro reader ⟨⟩
    · rintro reader ⟨⟩
    · rintro reader snapshot ⟨⟩
  · cases done

theorem follows_subscribe
    {fresh : Nat}
    (done : store.subscribe = .ok (fresh, after)) :
    Follows store (.subscribed fresh) after := by
  unfold subscribe at done
  split at done
  · rename_i present
    cases done
    refine ⟨rfl, ?_, ?_, ?_, ?_, ?_, fun reader => ?_⟩
    · simp only [present, ne_eq, reduceCtorEq, not_false_eq_true, and_self]
    · simp only [List.length_append, Nat.le_add_right]
    · rintro reader ⟨⟩
      simp only [List.length_append, List.length_singleton, Nat.lt_add_one, and_self]
    · rintro reader ⟨⟩
    · rintro reader snapshot ⟨⟩
    · rw [caughtUp?_append]
      simp only [reduceCtorEq, if_false, Event.catchesUp, decide_eq_true_eq, Event.source]
  · cases done

theorem follows_clone
    {original fresh : Nat}
    (done : store.clone original = .ok (fresh, after)) :
    Follows store (.cloned original fresh) after := by
  obtain ⟨board, number, length, present, caughtUp⟩ := clone_spec done
  refine ⟨board, ?_, ?_, ?_, ?_, ?_, fun reader => ?_⟩
  · simp only [hasWriter_clone done, ne_eq, reduceCtorEq, not_false_eq_true, and_true]
  · rw [length]
    exact Nat.le_succ _
  · rintro reader ⟨⟩
    rw [length, number]
    exact ⟨rfl, Nat.lt_succ_self _⟩
  · rintro reader ⟨⟩
    exact present
  · rintro reader snapshot ⟨⟩
  · rw [caughtUp]
    simp only [reduceCtorEq, if_false, Event.catchesUp, Bool.false_eq_true, Event.source]
    exact (apply_ite store.caughtUp? (reader = fresh) original reader).symm

/-- What leaves a store as it is: looking, and asking for news when there is nothing fresh. -/
theorem follows_self
    {event : Event}
    {reader : Nat}
    (present : (store.caughtUp? reader).isSome)
    (looks : event = .got reader store.board.latest ∨
      event = .changed reader .closed ∨ event = .changed reader .waiting) :
    Follows store event store := by
  refine ⟨?_, ?_, Nat.le_refl _, ?_, ?_, ?_, fun other => ?_⟩
  · obtain rfl | rfl | rfl := looks <;> rfl
  · obtain rfl | rfl | rfl := looks <;> simp
  · obtain rfl | rfl | rfl := looks <;> rintro other ⟨⟩
  · obtain rfl | rfl | rfl := looks <;> rintro other ⟨⟩ <;> exact present
  · obtain rfl | rfl | rfl := looks <;> rintro other snapshot ⟨⟩
    rfl
  · obtain rfl | rfl | rfl := looks <;> rfl

theorem follows_get
    {reader : Nat}
    {snapshot : Snapshot}
    (done : store.get reader = .ok snapshot) :
    Follows store (.got reader snapshot) store := by
  cases eq_latest_of_get done
  unfold get at done
  split at done
  · rename_i seen caughtUp
    exact follows_self (by rw [caughtUp]; rfl) (.inl rfl)
  · cases done

theorem follows_changed
    {reader : Nat}
    {news : News}
    (done : store.changed reader = .ok (news, after)) :
    Follows store (.changed reader news) after := by
  unfold changed at done
  split at done
  · rename_i seen caughtUp
    have present : (store.caughtUp? reader).isSome := by
      rw [caughtUp]
      rfl
    split at done
    · cases done
      refine ⟨rfl, ?_, ?_, ?_, ?_, ?_, fun other => ?_⟩
      · simp only [ne_eq, reduceCtorEq, not_false_eq_true, and_true]
      · exact Nat.le_of_eq List.length_set.symm
      · rintro other ⟨⟩
      · rintro other ⟨⟩
        exact present
      · rintro other snapshot ⟨⟩
      · rw [caughtUp?_set store reader other _ present]
        simp only [reduceCtorEq, if_false, Event.catchesUp, decide_eq_true_eq, Event.source]
    · split at done
      · cases done
        exact follows_self present (.inr (.inr rfl))
      · cases done
        exact follows_self present (.inr (.inl rfl))
  · cases done

theorem follows_dropReader
    {reader : Nat}
    (done : store.dropReader reader = .ok after) :
    Follows store (.readerDropped reader) after := by
  obtain ⟨board, length, present, caughtUp⟩ := dropReader_spec done
  refine ⟨board, ?_, ?_, ?_, ?_, ?_, fun other => ?_⟩
  · simp only [hasWriter_dropReader done, ne_eq, reduceCtorEq, not_false_eq_true, and_true]
  · exact Nat.le_of_eq length.symm
  · rintro other ⟨⟩
  · rintro other ⟨⟩
    exact present
  · rintro other snapshot ⟨⟩
  · rw [caughtUp]
    simp only [Event.readerDropped.injEq, eq_comm, Event.catchesUp, Bool.false_eq_true, if_false,
      Event.source]

theorem follows_dropWriter
    (done : store.dropWriter = .ok after) :
    Follows store .writerDropped after := by
  unfold dropWriter at done
  split at done
  · cases done
    refine ⟨rfl, ?_, Nat.le_refl _, ?_, ?_, ?_, fun reader => rfl⟩
    · simp only [ne_eq, not_true_eq_false, and_false, Bool.false_eq_true]
    · rintro reader ⟨⟩
    · rintro reader ⟨⟩
    · rintro reader snapshot ⟨⟩
  · cases done

/-- An operation is possible where the side that it is done on is there. -/
theorem exists_perform_iff
    (store : Store)
    (operation : Operation) :
    (∃ result, store.perform operation = .ok result) ↔
      match operation.reader? with
      | some reader => (store.caughtUp? reader).isSome
      | none => store.hasWriter = true := by
  cases operation with
  | set status =>
      cases writer : store.hasWriter <;>
        simp [perform, set, writer, Operation.reader?, Except.map]
  | subscribe =>
      cases writer : store.hasWriter <;>
        simp [perform, subscribe, writer, Operation.reader?, Except.map]
  | clone reader =>
      cases caughtUp : store.caughtUp? reader <;>
        simp [perform, clone, caughtUp, Operation.reader?, Except.map]
  | get reader =>
      cases caughtUp : store.caughtUp? reader <;>
        simp [perform, get, caughtUp, Operation.reader?, Except.map]
  | changed reader =>
      cases caughtUp : store.caughtUp? reader with
      | none => simp [perform, changed, caughtUp, Operation.reader?, Except.map]
      | some seen =>
          simp only [perform, changed, caughtUp, Operation.reader?, Option.isSome_some, iff_true]
          split
          · exact ⟨_, rfl⟩
          · split <;> exact ⟨_, rfl⟩
  | dropReader reader =>
      cases caughtUp : store.caughtUp? reader <;>
        simp [perform, dropReader, caughtUp, Operation.reader?, Except.map]
  | dropWriter =>
      cases writer : store.hasWriter <;>
        simp [perform, dropWriter, writer, Operation.reader?, Except.map]

theorem map_eq_ok
    {Given Result : Type}
    {attempt : Except Refusal Given}
    {wrap : Given → Result}
    {result : Result}
    (done : attempt.map wrap = .ok result) :
    ∃ given, attempt = .ok given ∧ wrap given = result := by
  cases attempt with
  | error refusal => cases done
  | ok given =>
      cases done
      exact ⟨given, rfl, rfl⟩

theorem follows_perform
    {operation : Operation}
    {event : Event}
    (done : store.perform operation = .ok (event, after)) :
    Follows store event after := by
  cases operation with
  | set status =>
      obtain ⟨_, possible, ⟨⟩⟩ := map_eq_ok done
      exact follows_set possible
  | subscribe =>
      obtain ⟨_, possible, ⟨⟩⟩ := map_eq_ok done
      exact follows_subscribe possible
  | clone reader =>
      obtain ⟨_, possible, ⟨⟩⟩ := map_eq_ok done
      exact follows_clone possible
  | get reader =>
      obtain ⟨_, possible, ⟨⟩⟩ := map_eq_ok done
      exact follows_get possible
  | changed reader =>
      obtain ⟨_, possible, ⟨⟩⟩ := map_eq_ok done
      exact follows_changed possible
  | dropReader reader =>
      obtain ⟨_, possible, ⟨⟩⟩ := map_eq_ok done
      exact follows_dropReader possible
  | dropWriter =>
      obtain ⟨_, possible, ⟨⟩⟩ := map_eq_ok done
      exact follows_dropWriter possible

/-! ## What a history tells -/

namespace Event

variable {event : Event} {reader : Nat}

/-- Only what brings a reader into being can have it take after another one. -/
theorem source_of_ne_made (other : event.made? ≠ some reader) : event.source reader = reader := by
  cases event with
  | cloned original fresh =>
      refine if_neg fun same => other ?_
      rw [same]
      rfl
  | _ => rfl

/-- A reader that comes into being has caught up, or it takes after one that is there. -/
theorem catchesUp_or_of_made (made : event.made? = some reader) :
    event.catchesUp reader = true ∨ event.reader? = some (event.source reader) := by
  cases event with
  | subscribed fresh =>
      cases made
      exact .inl (decide_eq_true rfl)
  | cloned original fresh =>
      cases made
      exact .inr (congrArg some (if_pos rfl).symm)
  | _ => cases made

/-- A reader that is there catches up only by hearing of something fresh. -/
theorem eq_changed_of_catchesUp
    (caughtUp : event.catchesUp reader = true)
    (other : event.made? ≠ some reader) :
    event = .changed reader .fresh := by
  cases event with
  | subscribed fresh =>
      cases of_decide_eq_true caughtUp
      exact absurd rfl other
  | changed asking news =>
      cases news with
      | fresh =>
          cases of_decide_eq_true caughtUp
          rfl
      | closed => cases caughtUp
      | waiting => cases caughtUp
  | _ => cases caughtUp

theorem saw?_eq_some_iff (snapshot : Snapshot) :
    event.saw? reader = some snapshot ↔ event = .got reader snapshot := by
  cases event with
  | got other seen => simp [saw?, eq_comm]
  | _ => simp [saw?]

end Event

theorem sets_cons
    (event : Event)
    (history : List Event) :
    sets (event :: history) = event.status?.toList ++ sets history := by
  cases published : event.status? with
  | none => exact List.filterMap_cons_none published
  | some status => exact List.filterMap_cons_some published

theorem sets_append (later earlier : List Event) :
    sets (later ++ earlier) = sets later ++ sets earlier :=
  List.filterMap_append

/-- Only publications are among the statuses of a history. -/
theorem sets_eq_nil_iff (history : List Event) :
    sets history = [] ↔ ∀ status, .set status ∉ history := by
  rw [sets, List.filterMap_eq_nil_iff]
  constructor
  · intro none status present
    cases none _ present
  · intro none event present
    cases event with
    | set status => exact absurd present (none status)
    | _ => rfl

/-- The board that a history tells of. -/
def boardOf (history : List Event) : Board :=
  ⟨lastSet history, (sets history).length⟩

theorem boardOf_cons
    (event : Event)
    (history : List Event) :
    boardOf (event :: history) = event.shown (boardOf history) := by
  rw [boardOf, lastSet, sets_cons, Event.shown]
  cases event.status? with
  | none => rfl
  | some status => rfl

theorem live_cons_of_ne
    {event : Event}
    {history : List Event}
    {reader : Nat}
    (made : event.made? ≠ some reader)
    (dropped : event ≠ .readerDropped reader) :
    Live (event :: history) reader ↔ Live history reader := by
  rw [Live, Live, List.exists_mem_cons_iff, List.mem_cons]
  simp only [made, false_or, dropped.symm]

/-- A store is the one that a history tells of. -/
structure Recounts (store : Store) (history : List Event) : Prop where
  /-- The board shows what was published last and counts the publications. -/
  board : store.board = boardOf history
  /-- The writer is there unless it has gone. -/
  hasWriter : store.hasWriter = true ↔ .writerDropped ∉ history
  /-- Nothing has been done with a reader that is still to come. -/
  used : ∀ event ∈ history, ∀ reader, event.reader? = some reader → reader < store.readers.length
  /-- Readers come into being before anything is done with them. -/
  order : history.Pairwise fun later earlier =>
    ∀ reader, later.made? = some reader → earlier.reader? ≠ some reader
  /-- The readers that are there are those that the history tells of. -/
  live : ∀ reader, (store.caughtUp? reader).isSome ↔ Live history reader
  /-- A reader is behind by what has been published since it caught up. -/
  behind : ∀ reader seen, store.caughtUp? reader = some seen →
    seen + (sets (since history reader)).length = store.board.published
  /-- Whoever looked saw what had been published last. -/
  got : ∀ reader snapshot earlier, .got reader snapshot :: earlier <:+ history →
    snapshot = lastSet earlier

theorem recounts_new : Recounts .new [] := by
  refine ⟨rfl, ?_, ?_, .nil, fun reader => ?_, ?_, ?_⟩
  · simp [new]
  · rintro event ⟨⟩
  · cases reader with
    | zero => simp [new, caughtUp?, Live]
    | succ reader => simp [new, caughtUp?, Live]
  · intro reader seen caughtUp
    cases reader with
    | zero =>
        cases caughtUp
        rfl
    | succ reader => cases caughtUp
  · intro reader snapshot earlier tail
    cases List.eq_nil_of_suffix_nil tail

section Cons

variable {event : Event} {history : List Event}

/-- Nothing has been done before with a reader that comes into being. -/
theorem Recounts.reader?_ne_of_made
    (recounts : Recounts store history)
    (follows : Follows store event after)
    {reader : Nat}
    (made : event.made? = some reader) :
    ∀ earlier ∈ history, earlier.reader? ≠ some reader := by
  intro earlier present done
  have bound := recounts.used earlier present reader done
  rw [(follows.made reader made).1] at bound
  exact Nat.lt_irrefl _ bound

/-- A reader that comes into being is there. -/
theorem Recounts.live_of_made
    (recounts : Recounts store history)
    (follows : Follows store event after)
    {reader : Nat}
    (made : event.made? = some reader)
    (dropped : event ≠ .readerDropped reader) :
    Live (event :: history) reader := by
  refine ⟨.inr ⟨event, List.mem_cons_self, made⟩, fun gone => ?_⟩
  obtain same | earlier := List.mem_cons.mp gone
  · exact dropped same.symm
  · exact recounts.reader?_ne_of_made follows made _ earlier rfl

/-- The readers that are there after an event are those that the history tells of. -/
theorem Recounts.live_cons
    (recounts : Recounts store history)
    (follows : Follows store event after)
    (reader : Nat) :
    (after.caughtUp? reader).isSome ↔ Live (event :: history) reader := by
  rw [follows.caughtUp]
  by_cases dropped : event = .readerDropped reader
  · simp [dropped, Live]
  · rw [if_neg dropped]
    by_cases made : event.made? = some reader
    · refine iff_of_true ?_ (recounts.live_of_made follows made dropped)
      split
      · rfl
      · rename_i behind
        obtain caughtUp | known := Event.catchesUp_or_of_made made
        · exact absurd caughtUp behind
        · exact follows.known _ known
    · rw [live_cons_of_ne made dropped, ← recounts.live, Event.source_of_ne_made made]
      split
      · rename_i caughtUp
        cases Event.eq_changed_of_catchesUp caughtUp made
        exact iff_of_true rfl (follows.known reader rfl)
      · exact Iff.rfl

theorem Recounts.behind_cons
    (recounts : Recounts store history)
    (follows : Follows store event after)
    {reader seen : Nat}
    (caughtUp : after.caughtUp? reader = some seen) :
    seen + (sets (since (event :: history) reader)).length = after.board.published := by
  rw [follows.caughtUp] at caughtUp
  split at caughtUp
  · cases caughtUp
  · rw [since]
    split at caughtUp
    · rename_i catches
      cases caughtUp
      rw [if_pos catches]
      rfl
    · rename_i catches
      have before := recounts.behind _ _ caughtUp
      rw [if_neg catches, sets_cons, List.length_append, follows.board, Event.shown]
      cases event.status? with
      | none => simpa using before
      | some status =>
          rw [Board.published_publish, ← before]
          simp only [Option.toList_some, List.length_singleton]
          omega

/-- Whatever happens, the store stays the one that the history tells of. -/
theorem Recounts.cons
    (recounts : Recounts store history)
    (follows : Follows store event after) :
    Recounts after (event :: history) := by
  refine ⟨?_, ?_, ?_, ?_, recounts.live_cons follows, fun _ _ => recounts.behind_cons follows, ?_⟩
  · rw [follows.board, recounts.board, boardOf_cons]
  · rw [follows.hasWriter, recounts.hasWriter, List.mem_cons, not_or, and_comm, ne_eq, eq_comm]
  · intro other present reader done
    obtain rfl | earlier := List.mem_cons.mp present
    · exact Nat.lt_of_lt_of_le (lt_length_of_present (follows.known reader done)) follows.length
    · exact Nat.lt_of_lt_of_le (recounts.used other earlier reader done) follows.length
  · exact List.pairwise_cons.mpr ⟨fun earlier present reader made =>
      recounts.reader?_ne_of_made follows made earlier present, recounts.order⟩
  · intro reader snapshot earlier tail
    obtain same | before := List.suffix_cons_iff.mp tail
    · cases same
      exact (follows.got reader snapshot rfl).trans (congrArg Board.latest recounts.board)
    · exact recounts.got reader snapshot earlier before

end Cons

theorem recounts_step
    {chronicle : Chronicle}
    (recounts : Recounts chronicle.store chronicle.history)
    (operation : Operation) :
    Recounts (chronicle.step operation).store (chronicle.step operation).history := by
  unfold Chronicle.step
  split
  · rename_i event after done
    exact recounts.cons (follows_perform done)
  · exact recounts

theorem recounts_run (operations : List Operation) :
    Recounts (Chronicle.run operations).store (Chronicle.run operations).history := by
  induction operations using List.reverseRecOn with
  | nil => exact recounts_new
  | append_singleton operations operation inductionHypothesis =>
      rw [Chronicle.run, List.foldl_append]
      exact recounts_step inductionHypothesis operation

/-! ## Answers from the history -/

/-- What a reader hears depends only on how far it has caught up. -/
theorem hear_eq
    (store : Store)
    (reader : Nat) :
    store.hear reader =
      match store.caughtUp? reader with
      | some seen =>
        .ok (if seen ≠ store.board.published then .fresh
          else if store.hasWriter then .waiting else .closed)
      | none => .error .noReader := by
  unfold hear changed
  cases store.caughtUp? reader with
  | none => rfl
  | some seen =>
      dsimp only
      split
      · rfl
      · split <;> rfl

section Recounts

variable {history : List Event} {reader : Nat}

/-- What a history says is possible is what can be done. -/
theorem Recounts.exists_perform_iff
    (recounts : Recounts store history)
    (operation : Operation) :
    (∃ result, store.perform operation = .ok result) ↔ Possible history operation := by
  rw [Store.exists_perform_iff, Possible]
  cases operation.reader? with
  | none => exact recounts.hasWriter
  | some reader => exact recounts.live reader

theorem Recounts.get_eq
    (recounts : Recounts store history)
    (live : Live history reader) :
    store.get reader = .ok (lastSet history) := by
  rw [get_of_present ((recounts.live reader).mpr live), recounts.board]
  rfl

/-- Something has been published since a reader caught up exactly if it is behind. -/
theorem Recounts.exists_set_iff
    (recounts : Recounts store history)
    {seen : Nat}
    (caughtUp : store.caughtUp? reader = some seen) :
    (∃ status, .set status ∈ since history reader) ↔ seen ≠ store.board.published := by
  rw [← recounts.behind reader seen caughtUp, ← not_iff_not, not_exists, ← sets_eq_nil_iff,
    ← List.length_eq_zero_iff]
  omega

theorem Recounts.hear_spec
    (recounts : Recounts store history)
    (live : Live history reader) :
    ∃ news, store.hear reader = .ok news ∧
      (news = .fresh ↔ ∃ status, .set status ∈ since history reader) ∧
      (news = .closed ↔
        (∀ status, .set status ∉ since history reader) ∧ .writerDropped ∈ history) ∧
      (news = .waiting ↔
        (∀ status, .set status ∉ since history reader) ∧ .writerDropped ∉ history) := by
  obtain ⟨seen, caughtUp⟩ := Option.isSome_iff_exists.mp ((recounts.live reader).mpr live)
  have present := recounts.hasWriter
  rw [hear_eq, caughtUp]
  refine ⟨_, rfl, ?_⟩
  rw [← not_exists, recounts.exists_set_iff caughtUp]
  by_cases late : seen ≠ store.board.published
  · simp [late]
  · cases writer : store.hasWriter with
    | false =>
        have gone : .writerDropped ∈ history := by simpa [writer] using present
        simp [late, gone]
    | true =>
        have there : .writerDropped ∉ history := present.mp writer
        simp [late, there]

/-- Where a reader neither comes into being nor hears of something fresh, it catches up with
nothing. -/
theorem since_append
    {later : List Event}
    (made : ∀ event ∈ later, event.made? ≠ some reader)
    (fresh : .changed reader .fresh ∉ later)
    (earlier : List Event) :
    since (later ++ earlier) reader = later ++ since earlier reader := by
  induction later with
  | nil => rfl
  | cons event later inductionHypothesis =>
      have other := made event List.mem_cons_self
      have behind : ¬event.catchesUp reader = true := fun caughtUp =>
        fresh (Event.eq_changed_of_catchesUp caughtUp other ▸ List.mem_cons_self)
      rw [List.cons_append, since, if_neg behind, Event.source_of_ne_made other,
        inductionHypothesis (fun event present => made event (List.mem_cons_of_mem _ present))
          (fun present => fresh (List.mem_cons_of_mem _ present)), List.cons_append]

/-- A reader that has looked since it last heard of something fresh, and has missed nothing since,
has seen what was published last. -/
theorem Recounts.lastGot_eq
    (recounts : Recounts store history)
    (attentive : Attentive history reader)
    (missed : ∀ status, .set status ∉ since history reader)
    {snapshot : Snapshot}
    (looked : lastGot history reader = some snapshot) :
    snapshot = lastSet history := by
  obtain ⟨later, event, earlier, rfl, saw, silent⟩ := List.findSome?_eq_some_iff.mp looked
  obtain rfl := (Event.saw?_eq_some_iff snapshot).mp saw
  have made : ∀ event ∈ later, event.made? ≠ some reader := fun event present made =>
    (List.pairwise_append.mp recounts.order).2.2 event present _ List.mem_cons_self reader made rfl
  have fresh : .changed reader .fresh ∉ later := by
    intro present
    obtain ⟨newer, older, rfl⟩ := List.append_of_mem present
    obtain ⟨event, looking, seen⟩ := attentive newer.length (by simp) (by simp)
    rw [List.append_assoc, List.take_left] at looking
    rw [silent event (List.mem_append_left _ looking)] at seen
    cases seen
  have quiet : sets later = [] := by
    rw [sets_eq_nil_iff]
    intro status present
    apply missed status
    rw [since_append made fresh]
    exact List.mem_append_left _ present
  calc snapshot
      = lastSet earlier := recounts.got reader snapshot earlier (List.suffix_append later _)
    _ = lastSet (later ++ .got reader snapshot :: earlier) := by
      rw [lastSet, lastSet, sets_append, quiet, sets_cons]
      rfl

end Recounts

/-! ## Other readers -/

/-- An operation on one reader leaves the others and everything that they share. -/
theorem Follows.of_reader
    {event : Event}
    {reader other : Nat}
    (follows : Follows store event after)
    (done : event.reader? = some reader)
    (different : other ≠ reader)
    (present : (store.caughtUp? other).isSome) :
    after.board = store.board ∧ after.hasWriter = store.hasWriter ∧
      after.caughtUp? other = store.caughtUp? other := by
  have stays : event ≠ .readerDropped other := by
    rintro rfl
    cases done
    exact different rfl
  have made : event.made? ≠ some other := fun made =>
    Nat.lt_irrefl _ ((follows.made other made).1 ▸ lt_length_of_present present)
  have behind : ¬event.catchesUp other = true := by
    intro caughtUp
    cases Event.eq_changed_of_catchesUp caughtUp made
    cases done
    exact different rfl
  refine ⟨?_, ?_, ?_⟩
  · rw [follows.board]
    cases event with
    | set status => cases done
    | _ => rfl
  · have kept : event ≠ .writerDropped := by
      rintro rfl
      cases done
    rw [Bool.eq_iff_iff, follows.hasWriter, and_iff_left kept]
  · rw [follows.caughtUp, if_neg stays, if_neg behind, Event.source_of_ne_made made]

theorem reader?_perform
    {operation : Operation}
    {event : Event}
    (done : store.perform operation = .ok (event, after)) :
    event.reader? = operation.reader? := by
  cases operation with
  | _ =>
      obtain ⟨_, _, ⟨⟩⟩ := map_eq_ok done
      rfl

/-- Whatever is done with one reader, the others look and hear as before. -/
theorem step_of_other
    (chronicle : Chronicle)
    {operation : Operation}
    {reader other : Nat}
    (done : operation.reader? = some reader)
    (different : other ≠ reader)
    (present : (chronicle.store.caughtUp? other).isSome) :
    (chronicle.step operation).store.get other = chronicle.store.get other ∧
      (chronicle.step operation).store.hear other = chronicle.store.hear other := by
  unfold Chronicle.step
  split
  · rename_i event after performed
    obtain ⟨board, hasWriter, caughtUp⟩ := (follows_perform performed).of_reader
      ((reader?_perform performed).trans done) different present
    simp only [get, hear_eq, board, hasWriter, caughtUp, and_self]
  · exact ⟨rfl, rfl⟩

/-- After any operations on any readers, what is possible and what a reader that is there sees and
hears can be read off the history.  It sees what was published last.  It hears of something fresh if
there was a publication since it caught up, and otherwise it is told whether the writer has gone.  If
it has looked each time after it heard of something fresh, and hears of nothing fresh any more, then
what it saw when it last looked is what was published last.  What is done with another reader changes
nothing of what it sees and hears. -/
theorem store_follows_history (operations : List Operation) :
    let chronicle := Chronicle.run operations
    let history := chronicle.history
    (∀ operation,
      (∃ result, chronicle.store.perform operation = .ok result) ↔ Possible history operation) ∧
    ∀ reader, Live history reader →
      chronicle.store.get reader = .ok (lastSet history) ∧
      (∃ news, chronicle.store.hear reader = .ok news ∧
        (news = .fresh ↔ ∃ status, .set status ∈ since history reader) ∧
        (news = .closed ↔
          (∀ status, .set status ∉ since history reader) ∧ .writerDropped ∈ history) ∧
        (news = .waiting ↔
          (∀ status, .set status ∉ since history reader) ∧ .writerDropped ∉ history)) ∧
      (chronicle.store.hear reader ≠ .ok .fresh → Attentive history reader →
        ∀ snapshot, lastGot history reader = some snapshot → snapshot = lastSet history) ∧
      ∀ operation other, operation.reader? = some other → reader ≠ other →
        (chronicle.step operation).store.get reader = chronicle.store.get reader ∧
          (chronicle.step operation).store.hear reader = chronicle.store.hear reader := by
  intro chronicle history
  have recounts : Recounts chronicle.store history := recounts_run operations
  refine ⟨recounts.exists_perform_iff, fun reader live => ?_⟩
  obtain ⟨news, heard, fresh, ended⟩ := recounts.hear_spec live
  refine ⟨recounts.get_eq live, ⟨news, heard, fresh, ended⟩, ?_, ?_⟩
  · intro stale attentive snapshot looked
    refine recounts.lastGot_eq attentive (fun status present => stale ?_) looked
    rw [heard, fresh.mpr ⟨status, present⟩]
  · intro operation other done different
    exact step_of_other chronicle done different ((recounts.live reader).mpr live)

/-- A copy hears of a publication that its original had not caught up with.  The same status is
published once more, the writer goes, and the copy looks before there is nothing fresh for it. -/
theorem store_follows_history_past_the_writer :
    let operations : List Operation :=
      [.set .example, .subscribe, .clone 0, .changed 2, .get 2, .changed 0, .clone 2, .dropReader 0,
        .set .example, .dropWriter, .changed 2, .get 2, .changed 1]
    let chronicle := Chronicle.run operations
    Live chronicle.history 2 ∧ chronicle.store.hear 2 = .ok .closed ∧
      Attentive chronicle.history 2 ∧
      lastGot chronicle.history 2 = some (some .example) ∧
      some .example = lastSet chronicle.history := by
  intro operations chronicle
  have live : Live chronicle.history 2 := by decide +kernel
  have closed : chronicle.store.hear 2 = .ok .closed := rfl
  have attentive : Attentive chronicle.history 2 := by decide +kernel
  have looked : lastGot chronicle.history 2 = some (some .example) := by decide +kernel
  have stale : chronicle.store.hear 2 ≠ .ok .fresh := by
    rw [closed]
    rintro ⟨⟩
  exact ⟨live, closed, attentive, looked,
    ((store_follows_history operations).2 2 live).2.2.1 stale attentive _ looked⟩

end Store
end SerialShare
