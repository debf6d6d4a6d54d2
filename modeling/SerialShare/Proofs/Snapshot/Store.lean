import Mathlib.Data.List.Basic
import SerialShare.Snapshot.Store

/-!
# Readers of a store

What each operation on a store does to every reader: which readers there are, and how far they have
caught up.  A reader that is there sees the board, and no operation on another reader touches it.
-/

namespace SerialShare

/-- A board shows the last of the publications made on it and counts them. -/
theorem Board.foldl_publish_on
    (board : Board)
    (publications : List Status) :
    publications.foldl Board.publish board =
      ⟨publications.getLast?.or board.latest, board.published + publications.length⟩ := by
  induction publications generalizing board with
  | nil => rfl
  | cons status later inductionHypothesis =>
      rw [List.foldl_cons, inductionHypothesis, Board.latest_publish, Board.published_publish,
        List.getLast?_cons, List.length_cons, Nat.add_assoc, Nat.add_comm 1]
      cases later.getLast? with
      | none => rfl
      | some last => rfl

theorem Board.foldl_publish (publications : List Status) :
    publications.foldl Board.publish .empty =
      ⟨publications.getLast?, publications.length⟩ := by
  rw [Board.foldl_publish_on, Board.empty, Option.or_none, Nat.zero_add]

namespace Store

theorem lt_length_of_present
    {store : Store}
    {reader : Nat}
    (present : (store.caughtUp? reader).isSome) :
    reader < store.readers.length := by
  by_contra outside
  rw [caughtUp?, List.getElem?_eq_none (by omega)] at present
  cases present

theorem caughtUp?_append
    (store : Store)
    (seen reader : Nat) :
    { store with readers := store.readers ++ [some seen] }.caughtUp? reader =
      if reader = store.readers.length then some seen else store.caughtUp? reader := by
  unfold caughtUp?
  dsimp only
  by_cases last : reader = store.readers.length
  · rw [last, List.getElem?_concat_length]
    simp
  · rw [if_neg last]
    by_cases inside : reader < store.readers.length
    · rw [List.getElem?_append_left inside]
    · rw [List.getElem?_eq_none (by simp; omega), List.getElem?_eq_none (by omega)]

theorem caughtUp?_set
    (store : Store)
    (reader other : Nat)
    (seen : Option Nat)
    (present : (store.caughtUp? reader).isSome) :
    { store with readers := store.readers.set reader seen }.caughtUp? other =
      if other = reader then seen else store.caughtUp? other := by
  have inside := lt_length_of_present present
  unfold caughtUp?
  dsimp only
  by_cases same : other = reader
  · rw [same, List.getElem?_set_self inside]
    simp
  · rw [if_neg same, List.getElem?_set_ne (Ne.symm same)]

/-! ## Operations -/

variable {store after : Store} {reader other fresh : Nat}

/-- A copy of a reader has a number of its own and has caught up as far. -/
theorem clone_spec (cloned : store.clone reader = .ok (fresh, after)) :
    after.board = store.board ∧ fresh = store.readers.length ∧
      after.readers.length = store.readers.length + 1 ∧ (store.caughtUp? reader).isSome ∧
      ∀ other, after.caughtUp? other =
        if other = fresh then store.caughtUp? reader else store.caughtUp? other := by
  unfold clone at cloned
  split at cloned
  · rename_i seen caughtUp
    cases cloned
    refine ⟨rfl, rfl, List.length_append, by rw [caughtUp]; rfl, fun other => ?_⟩
    rw [caughtUp]
    exact store.caughtUp?_append seen other
  · cases cloned

theorem hasWriter_clone (cloned : store.clone reader = .ok (fresh, after)) :
    after.hasWriter = store.hasWriter := by
  unfold clone at cloned
  split at cloned <;> cases cloned
  rfl

/-- A reader that goes leaves all the others. -/
theorem dropReader_spec (dropped : store.dropReader reader = .ok after) :
    after.board = store.board ∧ after.readers.length = store.readers.length ∧
      (store.caughtUp? reader).isSome ∧
      ∀ other, after.caughtUp? other = if other = reader then none else store.caughtUp? other := by
  unfold dropReader at dropped
  split at dropped
  · rename_i seen caughtUp
    cases dropped
    have present : (store.caughtUp? reader).isSome := by
      rw [caughtUp]
      rfl
    exact ⟨rfl, List.length_set, present, fun other => store.caughtUp?_set reader other none present⟩
  · cases dropped

theorem hasWriter_dropReader (dropped : store.dropReader reader = .ok after) :
    after.hasWriter = store.hasWriter := by
  unfold dropReader at dropped
  split at dropped <;> cases dropped
  rfl

/-- A reader that is there sees the board. -/
theorem get_of_present (present : (store.caughtUp? reader).isSome) :
    store.get reader = .ok store.board.latest := by
  obtain ⟨seen, caughtUp⟩ := Option.isSome_iff_exists.mp present
  simp only [get, caughtUp]

/-- Whoever sees something sees the board. -/
theorem eq_latest_of_get
    {snapshot : Snapshot}
    (seen : store.get reader = .ok snapshot) :
    snapshot = store.board.latest := by
  unfold get at seen
  split at seen
  · cases seen
    rfl
  · cases seen

end Store
end SerialShare
