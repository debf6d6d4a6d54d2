import SerialShare.Proofs.Bridge.Basic
import SerialShare.Proofs.Connection.Channel

/-!
# Every handler has its own reader

The store keeps one reader for those who are still to connect, and every client's handler gets a
copy of it, which goes when the handler ends.  So a handler at work always has a reader, no two
clients ever had the same one, and letting one go takes it from nobody else.
-/

namespace SerialShare
namespace Bridge

variable {State : Type}

/-- Whoever sits somewhere was put there, or sat there before. -/
theorem cases_update
    {seats : Nat → Option Seat}
    {key other : Nat}
    {changed : Seat}
    {result : Option Seat}
    (found : Function.update seats key (some changed) other = result) :
    (other = key ∧ result = some changed) ∨ (other ≠ key ∧ seats other = result) := by
  by_cases here : other = key
  · subst here
    rw [Function.update_self] at found
    exact Or.inl ⟨rfl, found.symm⟩
  · rw [Function.update_of_ne here] at found
    exact Or.inr ⟨here, found⟩

/-- The readers of a store are there for those who look through them. -/
structure Attended (store : Store) (seats : Nat → Option Seat) : Prop where
  /-- The reader that others are copied from is there. -/
  original : (store.caughtUp? 0).isSome
  /-- Every client was given a copy of it. -/
  given : ∀ key seat, seats key = some seat →
    seat.reader ≠ 0 ∧ seat.reader < store.readers.length
  /-- Different clients were given different ones. -/
  apart : ∀ key other seat neighbour, seats key = some seat → seats other = some neighbour →
    seat.reader = neighbour.reader → key = other
  /-- The reader of a handler at work is there. -/
  present : ∀ key seat, seats key = some seat → seat.connection.handler.ending = none →
    (store.caughtUp? seat.reader).isSome

theorem attended_start : Attended .new fun _ => none := by
  refine ⟨rfl, ?_, ?_, ?_⟩
  · rintro key seat ⟨⟩
  · rintro key other seat neighbour ⟨⟩
  · rintro key seat ⟨⟩

/-- As long as clients keep their readers, and those who need one find it as it was, all is well. -/
theorem Attended.mono
    {store after : Store}
    {seats later : Nat → Option Seat}
    (attended : Attended store seats)
    (same : ∀ key seat, later key = some seat →
      ∃ earlier, seats key = some earlier ∧ seat.reader = earlier.reader ∧
        (seat.connection.handler.ending = none → earlier.connection.handler.ending = none))
    (lengthEqual : after.readers.length = store.readers.length)
    (originalKept : after.caughtUp? 0 = store.caughtUp? 0)
    (kept : ∀ key seat, later key = some seat → seat.connection.handler.ending = none →
      after.caughtUp? seat.reader = store.caughtUp? seat.reader) :
    Attended after later := by
  refine ⟨?_, ?_, ?_, ?_⟩
  · rw [originalKept]
    exact attended.original
  · intro key seat found
    obtain ⟨earlier, before, readerEqual, _⟩ := same key seat found
    rw [readerEqual, lengthEqual]
    exact attended.given key earlier before
  · intro key other seat neighbour found neighbourFound equal
    obtain ⟨earlier, before, readerEqual, _⟩ := same key seat found
    obtain ⟨earlierNeighbour, neighbourBefore, neighbourEqual, _⟩ :=
      same other neighbour neighbourFound
    rw [readerEqual, neighbourEqual] at equal
    exact attended.apart key other earlier earlierNeighbour before neighbourBefore equal
  · intro key seat found running
    obtain ⟨earlier, before, readerEqual, runningBefore⟩ := same key seat found
    rw [kept key seat found running, readerEqual]
    exact attended.present key earlier before (runningBefore running)

/-- Who keeps the same reader in the same place. -/
theorem exists_of_update
    {seats : Nat → Option Seat}
    {key : Nat}
    {seat : Seat}
    (found : seats key = some seat)
    (changed : Seat)
    (readerEqual : changed.reader = seat.reader)
    (running : changed.connection.handler.ending = none → seat.connection.handler.ending = none)
    (other : Nat)
    (neighbour : Seat)
    (neighbourFound : Function.update seats key (some changed) other = some neighbour) :
    ∃ earlier, seats other = some earlier ∧ neighbour.reader = earlier.reader ∧
      (neighbour.connection.handler.ending = none →
        earlier.connection.handler.ending = none) := by
  obtain ⟨rfl, equal⟩ | ⟨_, neighbourFound⟩ := cases_update neighbourFound
  · cases equal
    exact ⟨seat, found, readerEqual, running⟩
  · exact ⟨neighbour, neighbourFound, rfl, id⟩

theorem Attended.client
    {store : Store}
    {seats : Nat → Option Seat}
    (attended : Attended store seats)
    {key : Nat}
    {seat : Seat}
    (found : seats key = some seat)
    (move : Seat.Move) :
    Attended store (Function.update seats key (some (seat.move move))) := by
  refine attended.mono ?_ rfl rfl fun _ _ _ _ => rfl
  apply exists_of_update found (seat.move move) (seat.reader_move move)
  rw [Seat.handler_move]
  exact id

theorem Attended.connect
    {store after : Store}
    {seats : Nat → Option Seat}
    {key reader : Nat}
    (attended : Attended store seats)
    (cloned : store.clone 0 = .ok (reader, after))
    (capacity : Nat) :
    Attended after (Function.update seats key (some ⟨reader, .new capacity, []⟩)) := by
  obtain ⟨_, rfl, lengthEqual, _, caughtUp⟩ := Store.clone_spec cloned
  have nonempty := Store.lt_length_of_present attended.original
  refine ⟨?_, ?_, ?_, ?_⟩
  · rw [caughtUp]
    split <;> exact attended.original
  · intro other seat found
    obtain ⟨rfl, equal⟩ | ⟨_, found⟩ := cases_update found
    · cases equal
      exact ⟨by dsimp only; omega, by dsimp only; omega⟩
    · obtain ⟨copied, inside⟩ := attended.given other seat found
      exact ⟨copied, by omega⟩
  · intro first second seat neighbour found neighbourFound equal
    obtain ⟨rfl, seatEqual⟩ | ⟨_, before⟩ := cases_update found <;>
      obtain ⟨rfl, neighbourEqual⟩ | ⟨_, neighbourBefore⟩ := cases_update neighbourFound
    · rfl
    · cases seatEqual
      have inside := (attended.given second neighbour neighbourBefore).2
      dsimp only at equal
      omega
    · cases neighbourEqual
      have inside := (attended.given first seat before).2
      dsimp only at equal
      omega
    · exact attended.apart first second seat neighbour before neighbourBefore equal
  · intro other seat found running
    obtain ⟨rfl, equal⟩ | ⟨_, found⟩ := cases_update found
    · cases equal
      rw [caughtUp, if_pos rfl]
      exact attended.original
    · have inside := (attended.given other seat found).2
      rw [caughtUp, if_neg (by omega)]
      exact attended.present other seat found running

/-- A handler's reader goes with it, and no other. -/
theorem Attended.release
    {store : Store}
    {seats : Nat → Option Seat}
    (attended : Attended store seats)
    {key : Nat}
    {seat : Seat}
    (found : seats key = some seat)
    {connection : Connection}
    (running : connection.handler.ending = none → seat.connection.handler.ending = none) :
    Attended (release store seat.reader connection.handler)
      (Function.update seats key (some { seat with connection })) := by
  have same := exists_of_update found { seat with connection } rfl running
  unfold Bridge.release
  split
  · rename_i ended
    cases dropped : store.dropReader seat.reader with
    | error refusal => exact attended.mono same rfl rfl fun _ _ _ _ => rfl
    | ok after =>
        obtain ⟨_, lengthEqual, _, caughtUp⟩ := Store.dropReader_spec dropped
        refine attended.mono same lengthEqual ?_ ?_
        · exact (caughtUp 0).trans (if_neg (attended.given key seat found).1.symm)
        · intro other neighbour neighbourFound neighbourRunning
          refine (caughtUp neighbour.reader).trans (if_neg ?_)
          -- A neighbour with this reader would be the client whose handler has ended.
          intro readerEqual
          obtain ⟨earlier, before, earlierEqual, _⟩ := same other neighbour neighbourFound
          have here : other = key :=
            attended.apart other key earlier seat before found (by rw [← earlierEqual, readerEqual])
          subst here
          rw [Function.update_self] at neighbourFound
          cases neighbourFound
          dsimp only at neighbourRunning
          rw [neighbourRunning] at ended
          cases ended
  · exact attended.mono same rfl rfl fun _ _ _ _ => rfl

end Bridge
end SerialShare
