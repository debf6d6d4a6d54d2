import SerialShare.Frame.Status

/-!
# The snapshot store

One writer publishes statuses, any number of readers look at the latest one.  The `Board` is what
they share: the latest status and how many there have been.  A `Store` adds the two sides: whether
the writer is still there, and up to which publication each reader has caught up.
-/

namespace SerialShare

/-- The latest status, and the number of statuses published so far. -/
structure Board where
  /-- The latest status, if there has been one. -/
  latest : Snapshot
  /-- How many statuses have been published. -/
  published : Nat
  deriving DecidableEq, Repr

namespace Board

/-- Nothing has been published. -/
def empty : Board := ⟨none, 0⟩

/-- Publish a status. -/
def publish (board : Board) (status : Status) : Board :=
  ⟨some status, board.published + 1⟩

@[simp] theorem latest_publish
    (board : Board)
    (status : Status) :
    (board.publish status).latest = some status := rfl

@[simp] theorem published_publish
    (board : Board)
    (status : Status) :
    (board.publish status).published = board.published + 1 := rfl

end Board

/-- A board with its writer and its readers. -/
structure Store where
  /-- What is shared. -/
  board : Board
  /-- Whether the writer is still there. -/
  hasWriter : Bool
  /-- For each reader the number of publications it has caught up with, or nothing when the reader
  is gone. -/
  readers : List (Option Nat)
  deriving DecidableEq, Repr

namespace Store

/-- Why an operation on a store is not possible. -/
inductive Refusal where
  /-- The writer is gone. -/
  | noWriter
  /-- There is no such reader, or it is gone. -/
  | noReader
  deriving DecidableEq, Repr

/-- A fresh store, with its writer and one reader. -/
def new : Store := ⟨.empty, true, [some 0]⟩

/-- What a reader has caught up with. -/
def caughtUp? (store : Store) (reader : Nat) : Option Nat :=
  store.readers[reader]?.join

/-- Publish a status. -/
def set (store : Store) (status : Status) : Except Refusal Store :=
  if store.hasWriter then .ok { store with board := store.board.publish status }
  else .error .noWriter

/-- A new reader, made by the writer.  It has caught up with everything published so far. -/
def subscribe (store : Store) : Except Refusal (Nat × Store) :=
  if store.hasWriter then
    .ok (store.readers.length,
      { store with readers := store.readers ++ [some store.board.published] })
  else .error .noWriter

/-- A new reader, copied from another one.  It has caught up with what that one has. -/
def clone (store : Store) (reader : Nat) : Except Refusal (Nat × Store) :=
  match store.caughtUp? reader with
  | some seen => .ok (store.readers.length, { store with readers := store.readers ++ [some seen] })
  | none => .error .noReader

/-- What a reader sees.  Looking is not catching up. -/
def get (store : Store) (reader : Nat) : Except Refusal Snapshot :=
  match store.caughtUp? reader with
  | some _ => .ok store.board.latest
  | none => .error .noReader

/-- What a reader that waits for news finds. -/
inductive News where
  /-- Something was published that the reader had not caught up with. -/
  | fresh
  /-- Nothing new will ever come. -/
  | closed
  /-- Nothing new has come yet. -/
  | waiting
  deriving DecidableEq, Repr

/-- Ask for news once, and catch up with it. -/
def changed (store : Store) (reader : Nat) : Except Refusal (News × Store) :=
  match store.caughtUp? reader with
  | some seen =>
    if seen ≠ store.board.published then
      .ok (.fresh,
        { store with readers := store.readers.set reader (some store.board.published) })
    else if store.hasWriter then .ok (.waiting, store)
    else .ok (.closed, store)
  | none => .error .noReader

/-- Let a reader go. -/
def dropReader (store : Store) (reader : Nat) : Except Refusal Store :=
  match store.caughtUp? reader with
  | some _ => .ok { store with readers := store.readers.set reader none }
  | none => .error .noReader

/-- Let the writer go. -/
def dropWriter (store : Store) : Except Refusal Store :=
  if store.hasWriter then .ok { store with hasWriter := false } else .error .noWriter

end Store
end SerialShare
